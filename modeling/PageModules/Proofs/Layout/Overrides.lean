import PageModules.Layout.Shape
import PageModules.Mapping.Fields
import PageModules.Proofs.Text.Cutting

/-!
# Author overrides of the layout

The settings of sections and rows can be set by author overrides, the keys of which are written
with underscores or with dashes (`Attr.Overrides`).  Only a key with underscores is looked up
(`Attr.Overrides.spells_iff`): such an override decides the setting, except that a section is as
wide as the page also by its classes or its style, and an override whose key is written with a
dash changes nothing (`LayoutSetting.value?_of_overrides`).
-/

namespace PageModules

namespace Text

/-- A text that stays the same up to case when a character is replaced by another one that is no
letter does not have the character. -/
theorem replaceChar_of_sameIgnoringCase {c d : Char} (hcd : lower c ≠ lower d) {s : String}
    (h : sameIgnoringCase s (replaceChar c d s) = true) : replaceChar c d s = s := by
  rw [sameIgnoringCase, Chars.sameIgnoringCase, beq_iff_eq, replaceChar, mapChars,
    String.toList_ofList, Chars.lowercase, Chars.lowercase, List.map_map, List.map_inj_left] at h
  rw [replaceChar, mapChars, ← String.toList_inj, String.toList_ofList]
  refine (List.map_congr_left fun e he => ?_).trans (List.map_id _)
  have hlower := h e he
  rw [Function.comp_apply] at hlower
  by_cases hec : e = c
  · rw [if_pos hec, hec] at hlower
    exact absurd hlower hcd
  · rw [if_neg hec, id]

end Text

/-! ### Settings -/

/-- The settings of a section or a row that are read from an element. -/
inductive LayoutSetting where
  /-- Whether a section is as wide as the page. -/
  | fullWidth
  /-- The greatest width of the contents of a section. -/
  | innerWidth
  /-- The gap between the rows of a section. -/
  | rowGap
  /-- The gap between the columns of a row. -/
  | columnGap
  /-- The alignment of the columns of a row. -/
  | verticalAlign
deriving DecidableEq

namespace LayoutSetting

/-- The key of a setting. -/
def key : LayoutSetting → String
  | fullWidth => "fullwidth"
  | innerWidth => "inner_width"
  | rowGap => "row_gap"
  | columnGap => "column_gap"
  | verticalAlign => "vertical_align"

/-- The value that is read from an element. -/
def value? (e : Element) : LayoutSetting → Option Json
  | fullWidth => some (.bool e.isFullWidth)
  | innerWidth => e.innerWidth?.map .integer
  | rowGap => e.rowGap?.map .integer
  | columnGap => e.columnGap?.map .integer
  | verticalAlign => e.verticalAlign?.map .text

/-- The value that the text of an override says. -/
def said (text : String) : LayoutSetting → Json
  | fullWidth => .bool (Text.trim text == "true")
  | innerWidth => .integer (Length.leadingInteger text)
  | rowGap => .integer (Length.leadingInteger text)
  | columnGap => .integer (Length.leadingInteger text)
  | verticalAlign => .text (Text.trim text)

end LayoutSetting

/-! ### Overrides -/

namespace Attr

/-- The attribute is an author override for a key, with dashes read as underscores, and it is not
blank. -/
structure Overrides (a : Attr) (key : String) : Prop where
  /-- The name has the key. -/
  key_eq : Element.overrideKey? a.name = some key
  /-- There is a value. -/
  filled : Text.isBlankText a.value = false

/-- The name of the attribute is that of an author override for a key as it is, in any case. -/
def spells (a : Attr) (key : String) : Bool :=
  (Text.dropPiece? Element.overrideMark a.name).any fun rest => Text.sameIgnoringCase rest key

variable {a : Attr} {key : String}

/-- The key is spelled as it is exactly if there are no dashes in its place. -/
theorem Overrides.spells_iff (h : a.Overrides key) :
    a.spells key = true ↔ a.name = Element.overrideMark ++ key := by
  obtain ⟨rest, hrest, hkey⟩ := Option.bind_eq_some_iff.mp h.key_eq
  have hname : a.name = Element.overrideMark ++ rest := Text.dropPiece?_eq_some_iff.mp hrest
  have hkey : Text.replaceChar '-' '_' rest = key := by
    split at hkey
    · cases hkey
    · exact Option.some.inj hkey
  have hspells : a.spells key = Text.sameIgnoringCase rest key := by
    rw [spells, hrest, Option.any_some]
  rw [hspells, hname, String.append_right_inj]
  constructor
  · intro hsame
    rw [← hkey] at hsame ⊢
    exact (Text.replaceChar_of_sameIgnoringCase (by decide) hsame).symm
  · rintro rfl
    exact beq_self_eq_true _

/-- Another look-up does not see an override. -/
theorem Overrides.ne_of_not_mark (h : a.Overrides key) {name : String}
    (hname : Text.dropPiece? Element.overrideMark name = none) : a.name ≠ name := by
  rintro rfl
  have hkey := h.key_eq
  rw [Element.overrideKey?, hname] at hkey
  cases hkey

end Attr

namespace Element

theorem override?_eq (e : Element) (key : String) :
    e.override? key = ((e.tag.attrs.find? (·.spells key)).map (·.value)).filter
      fun v => !Text.isBlankText v := rfl

/-- Whether the classes or the style make a section as wide as the page. -/
def looksFullWidth (e : Element) : Bool :=
  Layout.fullWidthWords.any (Text.containsPiece · e.lowerClass) ||
    (e.style.get? "width").any fun w => Text.sameIgnoringCase (Text.trim w) "100vw"

/-- The element with other attributes. -/
def withAttrs (e : Element) (attrs : List Attr) : Element := { e with tag := { e.tag with attrs } }

section

variable {e : Element} {front back : List Attr} {a : Attr} {key : String}

theorem find?_withAttrs (he : e.tag.attrs = front ++ a :: back) {p : Attr → Bool}
    (hp : p a = false) :
    (e.withAttrs (front ++ back)).tag.attrs.find? p = e.tag.attrs.find? p := by
  rw [he, withAttrs, List.find?_append, List.find?_append, List.find?_cons_of_neg (by simp [hp])]

/-- An override is none of the attributes that are looked up by their names. -/
theorem attr?_withAttrs (he : e.tag.attrs = front ++ a :: back) (h : a.Overrides key)
    {name : String} (hname : Text.dropPiece? overrideMark name = none) :
    (e.withAttrs (front ++ back)).attr? name = e.attr? name := by
  have hne : (decide (a.space = .none) && a.name == name) = false := by
    simp [h.ne_of_not_mark hname]
  rw [attr?, attr?, find?_withAttrs he hne]

theorem style_withAttrs (he : e.tag.attrs = front ++ a :: back) (h : a.Overrides key) :
    (e.withAttrs (front ++ back)).style = e.style := by
  rw [style, style, attr?_withAttrs he h (by decide)]

theorem lowerClass_withAttrs (he : e.tag.attrs = front ++ a :: back) (h : a.Overrides key) :
    (e.withAttrs (front ++ back)).lowerClass = e.lowerClass := by
  rw [lowerClass, lowerClass, classAttr, classAttr, attr?_withAttrs he h (by decide)]

/-- The first attribute that spells a key says its value. -/
theorem override?_of_first (he : e.tag.attrs = front ++ a :: back)
    (h : a.Overrides key) (hspells : a.spells key = true)
    (hfront : ∀ b ∈ front, b.spells key = false) : e.override? key = some a.value := by
  have hnone : front.find? (·.spells key) = none := by simpa using hfront
  have hfind : (a :: back).find? (·.spells key) = some a := List.find?_cons_of_pos hspells
  rw [override?_eq, he, List.find?_append, hnone, Option.none_or, hfind, Option.map_some,
    Option.filter_some, h.filled]
  rfl

/-- Another attribute that overrides the key does not count. -/
theorem override?_withAttrs (he : e.tag.attrs = front ++ a :: back)
    (hother : a.spells key = true → ∃ b ∈ front, b.spells key = true) :
    (e.withAttrs (front ++ back)).override? key = e.override? key := by
  rw [override?_eq, override?_eq]
  cases hspells : a.spells key with
  | false => rw [find?_withAttrs he hspells]
  | true =>
    have hsome : (front.find? (·.spells key)).isSome = true := by
      simpa using hother hspells
    obtain ⟨b, hb⟩ := Option.isSome_iff_exists.mp hsome
    rw [he, withAttrs, List.find?_append, List.find?_append, hb, Option.some_or, Option.some_or]

end

end Element

namespace LayoutSetting

variable {e : Element} {front back : List Attr} {a : Attr}

/-- A setting is read from the classes, the style and the override with its key. -/
theorem value?_congr {e e' : Element} (s : LayoutSetting) (hclass : e'.lowerClass = e.lowerClass)
    (hstyle : e'.style = e.style) (hchildren : e'.children = e.children)
    (hover : e'.override? s.key = e.override? s.key) : s.value? e' = s.value? e := by
  cases s with
  | fullWidth =>
    rw [key] at hover
    rw [value?, value?, Element.isFullWidth, Element.isFullWidth, hclass, hstyle, hover]
  | innerWidth =>
    have hcontainer : e'.containerWidth? = e.containerWidth? := by
      rw [Element.containerWidth?, Element.containerWidth?, Element.childElements,
        Element.childElements, hchildren]
    rw [key] at hover
    rw [value?, value?, Element.innerWidth?, Element.innerWidth?, hclass, hstyle, hover, hcontainer]
  | rowGap =>
    rw [key] at hover
    rw [value?, value?, Element.rowGap?, Element.rowGap?, hstyle, hover]
  | columnGap =>
    rw [key] at hover
    rw [value?, value?, Element.columnGap?, Element.columnGap?, hstyle, hover]
  | verticalAlign =>
    rw [key] at hover
    rw [value?, value?, Element.verticalAlign?, Element.verticalAlign?, hstyle, hover]

/-- An override decides all settings but one. -/
theorem value?_of_override? {s : LayoutSetting} (hs : s ≠ fullWidth) {text : String}
    (h : e.override? s.key = some text) : s.value? e = some (s.said text) := by
  cases s with
  | fullWidth => exact absurd rfl hs
  | innerWidth =>
    rw [key] at h
    rw [value?, Element.innerWidth?, h]
    rfl
  | rowGap =>
    rw [key] at h
    rw [value?, Element.rowGap?, h]
    rfl
  | columnGap =>
    rw [key] at h
    rw [value?, Element.columnGap?, h]
    rfl
  | verticalAlign =>
    rw [key] at h
    rw [value?, Element.verticalAlign?, h]
    rfl

/-- The full width is given by the classes and the style beside the override. -/
theorem value?_fullWidth_of_override? {text : String}
    (h : e.override? fullWidth.key = some text) :
    fullWidth.value? e = some (.bool (Text.trim text == "true" || e.looksFullWidth)) := by
  rw [key] at h
  rw [value?, Element.isFullWidth, h, Option.any_some, Bool.or_comm]
  rfl

/-- **An override decides a setting only if its key is spelled with underscores.**  Take an element
with an author override `a` for a setting, where dashes in the key are read as underscores.  Where
the key is spelled as it is and for the first time, the setting is what the override says, whatever
the classes, the style and the children are; but a section is as wide as the page also by its
classes and by its style.  With a dash in its key the override changes nothing. -/
theorem value?_of_overrides {s : LayoutSetting} (he : e.tag.attrs = front ++ a :: back)
    (h : a.Overrides s.key) :
    let counts := a.name = Element.overrideMark ++ s.key ∧ ∀ b ∈ front, b.spells s.key = false
    (counts → s ≠ fullWidth → s.value? e = some (s.said a.value)) ∧
      (counts → s = fullWidth →
        s.value? e = some (.bool (Text.trim a.value == "true" || e.looksFullWidth))) ∧
      (¬counts → s.value? e = s.value? (e.withAttrs (front ++ back))) := by
  intro counts
  have hfirst (hcounts : counts) : e.override? s.key = some a.value :=
    Element.override?_of_first he h (h.spells_iff.mpr hcounts.1) hcounts.2
  refine ⟨fun hcounts hs => value?_of_override? hs (hfirst hcounts), ?_, fun hcounts => ?_⟩
  · rintro hcounts rfl
    exact value?_fullWidth_of_override? (hfirst hcounts)
  · have hother (hspells : a.spells s.key = true) : ∃ b ∈ front, b.spells s.key = true := by
      by_contra hnone
      refine hcounts ⟨h.spells_iff.mp hspells, fun b hb => Bool.eq_false_iff.mpr fun hb' => ?_⟩
      exact hnone ⟨b, hb, hb'⟩
    exact (s.value?_congr (Element.lowerClass_withAttrs he h) (Element.style_withAttrs he h) rfl
      (Element.override?_withAttrs he hother)).symm

/-- A section of the class `container` with an override for the width of its contents. -/
def containerWith (override : Attr) : Element :=
  ⟨⟨.html, "section", [⟨.none, "class", "container"⟩, override]⟩, []⟩

/-- With an underscore the override says the width, with a dash the class does. -/
theorem value?_of_overrides_container :
    let spelled : Attr := ⟨.none, "data-jtb-attr-inner_width", "500px"⟩
    let dashed : Attr := ⟨.none, "data-jtb-attr-inner-width", "500px"⟩
    spelled.Overrides innerWidth.key ∧ dashed.Overrides innerWidth.key ∧
      innerWidth.value? (containerWith spelled) = some (.integer 500) ∧
      innerWidth.value? (containerWith dashed) = some (.integer 1200) := by
  intro spelled dashed
  have hspelled : spelled.Overrides innerWidth.key := ⟨by decide, by decide⟩
  have hdashed : dashed.Overrides innerWidth.key := ⟨by decide, by decide⟩
  have hlist (a : Attr) :
      (containerWith a).tag.attrs = [⟨.none, "class", "container"⟩] ++ a :: [] := rfl
  have hsaid : Length.leadingInteger "500px" = 500 := by decide
  have hclass : ((containerWith dashed).withAttrs
      ([⟨.none, "class", "container"⟩] ++ [])).innerWidth? = some 1200 := by decide
  refine ⟨hspelled, hdashed, ?_, ?_⟩
  · rw [(value?_of_overrides (hlist spelled) hspelled).1 ⟨by decide, by decide⟩ (by decide), said,
      hsaid]
  · rw [(value?_of_overrides (hlist dashed) hdashed).2.2 (by decide)]
    rw [value?, hclass]
    rfl

/-- The class wins over the override for the full width, and a key with a dash is not looked up. -/
theorem exists_overrides_value?_ne_said :
    let wide : Element := ⟨⟨.html, "div",
      [⟨.none, "class", "full-width"⟩, ⟨.none, "data-jtb-attr-fullwidth", "false"⟩]⟩, []⟩
    let dashed : Element := ⟨⟨.html, "section", [⟨.none, "data-jtb-attr-inner-width", "500"⟩]⟩, []⟩
    (∃ a ∈ wide.tag.attrs, a.Overrides fullWidth.key ∧
        fullWidth.value? wide ≠ some (fullWidth.said a.value)) ∧
      ∃ a ∈ dashed.tag.attrs, a.Overrides innerWidth.key ∧
        innerWidth.value? dashed ≠ some (innerWidth.said a.value) := by
  intro wide dashed
  have hwide : wide.isFullWidth = true := by decide
  have hsaid : (Text.trim "false" == "true") = false := by decide
  have hdashed : dashed.innerWidth? = none := by decide
  refine ⟨⟨_, List.mem_cons_of_mem _ List.mem_cons_self, ⟨by decide, by decide⟩, ?_⟩,
    ⟨_, List.mem_cons_self, ⟨by decide, by decide⟩, ?_⟩⟩
  · rw [value?, hwide, said, hsaid]
    simp
  · rw [value?, hdashed]
    simp

end LayoutSetting

end PageModules
