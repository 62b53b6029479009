import PageModules.Proofs.Component.PlainText
import PageModules.Proofs.Lists
import PageModules.Proofs.Markup.Reading
import PageModules.Walk.Conversion

/-!
# Detection of markers

Whether a document is read by its markers is told from its text, while the walk sees the markers of
the tree.  An element has a marker only if the text writes one (`Document.exists_writesMarker`): the
name in any case, blanks and an equals sign.  The detection knows the name in lowercase only, so the
two agree where the text writes it so (`Conversion.detectMode_of_attr?`), and nowhere else: the tree
has its names in lowercase whatever the text has (`Conversion.detectMode_capitalMarker`).
-/

namespace PageModules

open Text (Pattern isBlank lower)
open Text.Pattern (sequence blanks leads_text_iff leads_blanks_iff)

/-! ### Markers that are written -/

/-- A text writes a marker: its name in any case, blanks and an equals sign. -/
structure WritesMarker (text name blanks : List Char) : Prop where
  /-- They stand in the text one after the other. -/
  infix_text : name ++ blanks ++ ['='] <:+: text
  /-- Nothing but blanks is between the name and the equals sign. -/
  blanks : ∀ c ∈ blanks, Token.isSpace c = true
  /-- The name is that of a marker in some case. -/
  name : name.map lower = Element.markerName.toList

namespace WritesMarker

variable {text name blanks : List Char}

theorem mono {s : List Char} (h : WritesMarker s name blanks) (hs : s <:+: text) :
    WritesMarker text name blanks :=
  ⟨h.infix_text.trans hs, h.blanks, h.name⟩

/-- There is a `j` in the name of a marker. -/
theorem exists_lower_eq (h : WritesMarker text name blanks) :
    ∃ c ∈ name ++ blanks ++ ['='], lower c = 'j' := by
  have hmem : 'j' ∈ name.map lower := by
    rw [h.name]
    decide
  obtain ⟨c, hc, hlower⟩ := List.mem_map.mp hmem
  exact ⟨c, by simp [hc], hlower⟩

/-- What starts or ends a tag does not stand in a marker. -/
theorem not_mem (h : WritesMarker text name blanks) {c : Char} (hspace : Token.isSpace c = false)
    (hequals : c ≠ '=') (hname : lower c ∉ Element.markerName.toList) :
    c ∉ name ++ blanks ++ ['='] := by
  intro hmem
  rcases List.mem_append.mp hmem with hmem | hmem
  · rcases List.mem_append.mp hmem with hmem | hmem
    · rw [← h.name] at hname
      exact hname (List.mem_map_of_mem hmem)
    · rw [h.blanks c hmem] at hspace
      cases hspace
  · exact hequals (List.mem_singleton.mp hmem)

/-- What stands around a text at its tags, and has no `j`, adds no markers. -/
theorem of_append {front back : List Char}
    (h : WritesMarker (front ++ '>' :: (text ++ '<' :: back)) name blanks)
    (hfront : ∀ c ∈ front, lower c ≠ 'j') (hback : ∀ c ∈ back, lower c ≠ 'j') :
    WritesMarker text name blanks := by
  obtain ⟨c, hc, hj⟩ := h.exists_lower_eq
  have hend : '>' ∉ name ++ blanks ++ ['='] := h.not_mem (by decide) (by decide) (by decide)
  have hstart : '<' ∉ name ++ blanks ++ ['='] := h.not_mem (by decide) (by decide) (by decide)
  have hbehind := (Lists.infix_append_cons h.infix_text hend).resolve_left fun hin =>
    hfront c (hin.subset hc) hj
  have htext := (Lists.infix_append_cons hbehind hstart).resolve_right fun hin =>
    hback c (hin.subset hc) hj
  exact ⟨htext, h.blanks, h.name⟩

end WritesMarker

/-! ### Markers of elements -/

/-- The attribute is a marker only if the text writes one. -/
def Attr.IsWrittenMarker (text : List Char) (a : Attr) : Prop :=
  a.space = .none → a.name = Element.markerName → a.value ≠ "" →
    ∃ name blanks, WritesMarker text name blanks

theorem shown_eq_of_mem {c : Char} (h : Token.shown c ∈ Element.markerName.toList) :
    Token.shown c = c := by
  unfold Token.shown at h ⊢
  split
  · next hc =>
    rw [if_pos hc] at h
    exact absurd h (by decide)
  · rfl

theorem exists_writesMarker_of_isWritten {text : List Char} {a : String × String}
    (h : Token.IsWritten text a) (hname : a.1 = Element.markerName) (hne : a.2 ≠ "") :
    ∃ name blanks, WritesMarker text name blanks := by
  obtain ⟨name, blanks, hwritten, hblanks, hshown⟩ := h.resolve_left hne
  refine ⟨name, blanks, hwritten, hblanks, ?_⟩
  have hchars : name.map (fun c => Token.shown (lower c)) = Element.markerName.toList := by
    rw [← hname, hshown, String.toList_ofList]
  rw [← hchars]
  refine List.map_congr_left fun c hc => ?_
  exact (shown_eq_of_mem (hchars ▸ List.mem_map_of_mem hc)).symm

theorem space_ne_none_of_lookup {name : String} {p : AttrSpace × String}
    (h : Builder.spacedAttrs.lookup name = some p) : p.1 ≠ .none := by
  have hall : ∀ q ∈ Builder.spacedAttrs, q.2.1 ≠ .none := by decide
  obtain ⟨before, after, heq, -⟩ := List.lookup_eq_some_iff.mp h
  have hmem : (name, p) ∈ Builder.spacedAttrs := by
    rw [heq]
    exact List.mem_append_right _ List.mem_cons_self
  exact hall _ hmem

/-- Whatever the vocabulary, only an attribute with the name of a marker becomes a marker. -/
theorem name_eq_of_foreignAttr {space : Vocabulary} {a : String × String}
    (hspace : (Builder.foreignAttr space a).space = .none)
    (hname : (Builder.foreignAttr space a).name = Element.markerName) :
    a.1 = Element.markerName ∧ (Builder.foreignAttr space a).value = a.2 := by
  have hcapitals : Element.markerName ∉ Builder.svgAttrs := by decide
  unfold Builder.foreignAttr at hspace hname ⊢
  dsimp only at hspace hname ⊢
  split at hspace
  · next hlookup => exact absurd hspace (space_ne_none_of_lookup hlookup)
  · next hlookup =>
    rw [hlookup] at hname
    refine ⟨?_, rfl⟩
    cases space with
    | html => exact hname
    | mathml =>
      dsimp only at hname
      split at hname
      · exact absurd hname (by decide)
      · exact hname
    | svg =>
      unfold Builder.withCapitals at hname
      cases hfind : Builder.svgAttrs.find? fun n => Text.lowercase n == a.1 with
      | none => rwa [hfind] at hname
      | some n =>
        rw [hfind] at hname
        exact absurd (hname ▸ List.mem_of_find?_eq_some hfind) hcapitals

theorem gives_isWrittenMarker {text : List Char} {a : String × String}
    (h : Token.IsWritten text a) : Gives (Attr.IsWrittenMarker text) [a] := by
  refine List.forall_mem_singleton.mpr ⟨fun _ => exists_writesMarker_of_isWritten h, ?_⟩
  intro space hspace hname hne
  obtain ⟨hname, hvalue⟩ := name_eq_of_foreignAttr hspace hname
  exact exists_writesMarker_of_isWritten h hname (hvalue ▸ hne)

namespace Document

theorem characters_suffix (s : String) : characters s <:+ s.toList := by
  unfold characters
  split
  · next h =>
    rw [h]
    split
    · exact List.suffix_cons _ _
    · exact List.suffix_rfl
  · exact List.nil_suffix

/-- The document around the contents of a body writes no markers. -/
theorem writesMarker_of_completed {text : String} {name blanks : List Char}
    (h : WritesMarker (completed text).toList name blanks) :
    WritesMarker text.toList name blanks := by
  unfold completed at h
  split at h
  · exact h
  · have htext : (inEmptyDocument text).toList =
        "<!DOCTYPE html><html><head><meta charset=\"UTF-8\"></head><body".toList ++
          '>' :: (text.toList ++ '<' :: "/body></html>".toList) := by
      unfold inEmptyDocument
      simp
    rw [htext] at h
    exact h.of_append (by decide) (by decide)

/-- **Markers of the tree are written in the text**: where an element has a marker, the text has the
name of a marker in some case, with an equals sign behind it. -/
theorem exists_writesMarker {text : String} {e : Element} (he : e ∈ (ofText text).elements)
    {value : String} (hvalue : e.attr? Element.markerName = some value) (hne : value ≠ "") :
    ∃ name blanks, WritesMarker text.toList name blanks := by
  obtain ⟨a, hfind, rfl⟩ := Option.map_eq_some_iff.mp hvalue
  have hfits := List.find?_some hfind
  rw [Bool.and_eq_true, decide_eq_true_eq, beq_iff_eq] at hfits
  have hwritten := attrs_of_mem_elements (P := Attr.IsWrittenMarker (characters (completed text)))
    (fun _ => gives_isWrittenMarker) he a (List.mem_of_find?_eq_some hfind)
  obtain ⟨name, blanks, h⟩ := hwritten hfits.1 hfits.2 hne
  exact ⟨name, blanks, writesMarker_of_completed (h.mono (characters_suffix _).isInfix)⟩

end Document

/-! ### Detection -/

namespace Conversion

/-- The blanks of markup are blanks. -/
theorem isBlank_of_isSpace {c : Char} (h : Token.isSpace c = true) : isBlank c = true := by
  simp only [Token.isSpace, Bool.or_eq_true, decide_eq_true_eq] at h
  rcases h with (((rfl | rfl) | rfl) | rfl) | rfl <;> decide

/-- A name, blanks and an equals sign. -/
theorem exists_leads_name_equals {w : String} {p : Text.Place} {gap after : List Char}
    (hrest : p.rest = w.toList ++ (gap ++ '=' :: after)) (hgap : ∀ c ∈ gap, isBlank c = true) :
    ∃ q, (sequence [Pattern.text w, blanks, Pattern.text "="]).Leads p q := by
  have hname : (Pattern.text w).Leads p (p.after w.toList (gap ++ '=' :: after)) :=
    leads_text_iff.mpr ⟨_, hrest, rfl⟩
  have hblanks : blanks.Leads (p.after w.toList (gap ++ '=' :: after))
      ((p.after w.toList (gap ++ '=' :: after)).after gap ('=' :: after)) :=
    leads_blanks_iff.mpr ⟨gap, '=' :: after, rfl, hgap, rfl⟩
  exact ⟨_, _, hname, _, hblanks, _, leads_text_iff.mpr ⟨after, rfl, rfl⟩, rfl⟩

/-- A text that writes a marker in lowercase asks to be read by its markers. -/
theorem detectMode_of_writesMarker {text : String} {gap : List Char}
    (h : WritesMarker text.toList Element.markerName.toList gap) :
    detectMode text = .annotated := by
  obtain ⟨before, after, htext⟩ := h.infix_text
  obtain ⟨q, hq⟩ := exists_leads_name_equals (w := Element.markerName)
    (p := ⟨before.getLast?, Element.markerName.toList ++ (gap ++ '=' :: after)⟩) rfl fun c hc =>
      isBlank_of_isSpace (h.blanks c hc)
  have hin : markerPattern.isIn text.toList = true :=
    Text.Pattern.isIn_iff.mpr ⟨before, _, q, by simp [← htext], hq⟩
  rw [detectMode, if_pos hin]

/-- **A document with markers is read by them** if its text writes the names of markers in
lowercase. -/
theorem detectMode_of_attr? {text : String} {e : Element} (he : e ∈ (Document.ofText text).elements)
    {value : String} (hvalue : e.attr? Element.markerName = some value) (hne : value ≠ "")
    (hlower : ∀ name blanks, WritesMarker text.toList name blanks →
      name = Element.markerName.toList) :
    detectMode text = .annotated := by
  obtain ⟨name, blanks, h⟩ := Document.exists_writesMarker he hvalue hne
  obtain rfl := hlower name blanks h
  exact detectMode_of_writesMarker h

theorem detectMode_markedColumn :
    (∃ e ∈ (Document.ofText "<div data-jtb-module =\"column\">x</div>").elements,
      e.attr? Element.markerName = some "column") ∧
      detectMode "<div data-jtb-module =\"column\">x</div>" = .annotated := by
  have hmarked : ∃ e ∈ (Document.ofText "<div data-jtb-module =\"column\">x</div>").elements,
      e.attr? Element.markerName = some "column" := by decide +kernel
  have hlower : ∀ c ∈ "<div data-jtb-module =\"column\">x</div>".toList, lower c = c := by decide
  refine ⟨hmarked, ?_⟩
  obtain ⟨e, he, hvalue⟩ := hmarked
  refine detectMode_of_attr? he hvalue (by decide) fun name blanks h => ?_
  -- There are no capitals in the text.
  have hname : ∀ c ∈ name, lower c = c := fun c hc =>
    hlower c (h.infix_text.subset (by simp [hc]))
  rw [← h.name, List.map_congr_left hname, List.map_id']

/-- **A marker in capitals is not detected**, though the tree has it. -/
theorem detectMode_capitalMarker :
    ∃ e ∈ (Document.ofText "<div DATA-JTB-MODULE=\"text\">x</div>").elements,
      e.attr? Element.markerName = some "text" ∧
        detectMode "<div DATA-JTB-MODULE=\"text\">x</div>" = .generic := by
  decide +kernel

end Conversion

end PageModules
