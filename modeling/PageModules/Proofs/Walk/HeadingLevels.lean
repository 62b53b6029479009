import PageModules.Proofs.Style.History
import PageModules.Proofs.Style.Longhands
import PageModules.Proofs.Style.Order
import PageModules.Proofs.Walk.ExtractedContent

/-!
# The levels of headings

A heading whose level is not set, and that is and contains no heading element, has the level of the
size of its text.  Two readings of the style know a size: the level is read from the declared
`font-size` under the default base size, the attribute `font_size` from the longhands under the base
size of the conversion (`Element.HasLevel`).  The level is that of the attribute if the size is
written plainly (`Element.SizesPlainly`): no shorthand behind the declaration replaces it, and its
unit does not depend on the base size or that is the default (`Conversion.forall₂_hasLevel`).
-/

namespace PageModules

open StyleMap (defaultBaseFontSize longhands)

/-! ### Sizes -/

namespace Length

theorem pixels_trim (s : String) (base : Int) : pixels (Text.trim s) base = pixels s base := by
  have hchars : ofText (Text.trim s) = ofText s := by
    unfold ofText ofChars Text.trim Text.mapChars
    rw [String.toList_ofList, Chars.trim_eq_self_iff.mpr (Chars.isTrimmed_trim _)]
  rw [pixels, pixels, hchars]

/-- Lengths in other units than `em` and `rem` do not depend on the base size. -/
theorem pixels_of_unit {s : String} (h : (ofText s).unit ∉ ["em", "rem"]) (base base' : Int) :
    pixels s base = pixels s base' := by
  have hunit : ¬ ((ofText s).unit = "em" ∨ (ofText s).unit = "rem") := by
    simpa using h
  rw [pixels, pixels, inPixels, inPixels, if_neg hunit, if_neg hunit]

end Length

namespace Element

/-- The level is left to the size of the text. -/
structure LeavesLevel (e : Element) : Prop where
  /-- No attribute overrides the level. -/
  not_overridden : ¬ e.IsOverridden "level"
  /-- No level is set. -/
  override : e.levelOverride? = none
  /-- The element is no heading element. -/
  own : e.ownLevel? = none
  /-- There is no heading element below. -/
  below : e.descendants.findSome? ownLevel? = none

/-- The size that the declared `font-size` has under the default base size. -/
def declaredSize? (e : Element) : Option Int :=
  (e.style.get? "font-size").map fun s => Length.pixels s defaultBaseFontSize

/-- The size that the longhand `font-size` has under a base size. -/
def fontSize? (e : Element) (base : Int) : Option Int :=
  (e.style.expand.get? "font-size").map fun s => Length.pixels s base

/-- The size of the text is declared as such, by a `font-size` that no declaration behind it
replaces and that is the same under the default base size. -/
def SizesPlainly (e : Element) (base : Int) : Prop :=
  ∃ front s back, e.style.props = front ++ ("font-size", s) :: back ∧
    (∀ p ∈ back, "font-size" ∉ longhands p) ∧
    (base = defaultBaseFontSize ∨ (Length.ofText s).unit ∉ ["em", "rem"])

theorem nodup_names_style (e : Element) : e.style.names.Nodup := by
  unfold style
  cases e.attr? "style" with
  | none => exact List.nodup_nil
  | some s =>
    have hempty : StyleMap.empty.names.Nodup := List.nodup_nil
    exact StyleMap.nodup_foldl_declare hempty _

/-- **Both readings agree on a plain size.** -/
theorem SizesPlainly.exists_eq {e : Element} {base : Int} (h : e.SizesPlainly base) :
    ∃ size, e.declaredSize? = some size ∧ e.fontSize? base = some size := by
  obtain ⟨front, s, back, hprops, hback, hunit⟩ := h
  have hdeclared : e.style.get? "font-size" = some s := by
    -- Each name is declared once, so none of the declarations in front has it.
    have hnodup := e.nodup_names_style
    rw [StyleMap.names, hprops, List.map_append, List.map_cons] at hnodup
    have hfront : List.lookup "font-size" front = none := by
      rw [Option.eq_none_iff_forall_ne_some]
      intro v hv
      have hmem := List.mem_map_of_mem (f := Prod.fst) (Entries.mem_of_lookup_eq_some hv)
      exact (List.nodup_append.mp hnodup).2.2 _ hmem _ List.mem_cons_self rfl
    rw [StyleMap.get?_eq_lookup, hprops, List.lookup_append, hfront, Option.none_or,
      Entries.lookup_cons, if_pos rfl]
  have hlonghand : Shorthand.expand "font-size" s = [("font-size", Text.trim s)] :=
    Shorthand.expand_of_not_mem (by decide) s
  have hexpanded : e.style.expand.get? "font-size" = some (Text.trim s) := by
    refine StyleMap.get?_expand_of_last hprops ?_ hback
    rw [hlonghand]
    rfl
  have hpixels : Length.pixels s defaultBaseFontSize = Length.pixels s base := by
    rcases hunit with rfl | hunit
    · rfl
    · exact Length.pixels_of_unit hunit _ _
  refine ⟨Length.pixels s base, ?_, ?_⟩
  · rw [declaredSize?, hdeclared, Option.map_some, hpixels]
  · rw [fontSize?, hexpanded, Option.map_some, Length.pixels_trim]

/-! ### The attributes of a heading -/

theorem LeavesLevel.headingLevel_eq {e : Element} (h : e.LeavesLevel) :
    e.headingLevel = (e.declaredSize?.map levelOfSize).getD "h2" := by
  rw [headingLevel, h.override, h.own, h.below, declaredSize?]
  cases e.style.get? "font-size" with
  | none => rfl
  | some s => rfl

/-- The level and the size of the text that attributes say an element has. -/
structure HasLevel (e : Element) (base : Int) (attrs : Attributes) : Prop where
  /-- A level that is left to the size is that of the declared size, or else `h2`. -/
  level : e.LeavesLevel →
    attrs.find? "level" = some (.text ((e.declaredSize?.map levelOfSize).getD "h2"))
  /-- The size is that of the longhand. -/
  size : ¬ e.IsOverridden "font_size" → attrs.find? "font_size" = (e.fontSize? base).map .integer
  /-- A level that is left to a plain size is that of the size. -/
  agree : e.LeavesLevel → ¬ e.IsOverridden "font_size" → e.SizesPlainly base →
    ∃ size, attrs.find? "font_size" = some (.integer size) ∧
      attrs.find? "level" = some (.text (levelOfSize size))

theorem find?_typography (base : Int) (m : StyleMap) :
    (StyleMap.typography base m).find? "font_size" = m.pixelsOf base "font-size" := by
  have htexts : "font_size" ∉ (m.textsOf [("font-style", "font_style"),
      ("text-transform", "text_transform"), ("text-decoration", "text_decoration"),
      ("color", "text_color"), ("text-align", "text_align")]).map Prod.fst := by
    have hnames : "font_size" ∉ ["font_style", "text_transform", "text_decoration", "text_color",
        "text_align"] := by
      decide
    exact hnames
  have hshadow : "font_size" ∉
      (m.shadowDraft "text-shadow" ["horizontal", "vertical", "blur", "color"]).map Prod.fst := by
    intro h
    exact absurd (StyleMap.mem_shadowKeys h) (by decide)
  have hfamily : "font_family" ≠ "font_size" := by decide
  unfold StyleMap.typography
  rw [List.append_assoc]
  simp only [List.cons_append, List.nil_append]
  rw [Attributes.find?_ofDraft_cons, Attributes.find?_ofDraft_cons,
    Attributes.find?_ofDraft_of_not_mem, Option.none_or, if_pos rfl, if_neg hfamily,
    Option.or_none]
  simp only [List.map_cons, List.map_append, List.mem_cons, List.mem_append, not_or,
    String.reduceEq, not_false_eq_true, true_and]
  exact ⟨htexts, hshadow⟩

theorem find?_fontSize_styleAttributes (e : Element) (base : Int) :
    (e.styleAttributes base).find? "font_size" = (e.fontSize? base).map .integer := by
  obtain ⟨keys, howned, hkey⟩ :
      ∃ keys, (StyleMap.typography, keys) ∈ StyleMap.ownership ∧ "font_size" ∈ keys :=
    ⟨_, List.mem_of_getElem? (i := 4) rfl, List.mem_append_left _ (by decide)⟩
  have hpixels : e.style.expand.pixelsOf base "font-size" = (e.fontSize? base).map .integer := by
    rw [StyleMap.pixelsOf, fontSize?, Option.map_map]
    rfl
  rw [styleAttributes, StyleMap.find?_toAttributes_of_mem_ownership e.style base howned hkey,
    ← hpixels]
  exact find?_typography base e.style.expand

theorem find?_catalogFields_heading (e : Element) {key : String}
    (h : key ∉ ["text", "level", "link_url", "link_target"]) :
    (e.catalogFields .heading).find? key = none := by
  rw [Option.eq_none_iff_forall_ne_some]
  intro v hv
  have hkey := KeyMap.mem_keys_ofList.mp (KeyMap.mem_keys_iff.mpr ⟨v, hv⟩)
  obtain ⟨entry, hentry, rfl⟩ := List.mem_map.mp hkey
  obtain ⟨rule, hrule, hvalue⟩ := List.mem_filterMap.mp hentry
  obtain ⟨w, -, rfl⟩ := Option.map_eq_some_iff.mp hvalue
  exact h (List.mem_map_of_mem (f := FieldRule.name) hrule)

theorem hasLevel_typed (e : Element) (base : Int) (inside : ℕ) :
    e.HasLevel base ((Origin.typed e .heading).attributes base inside) := by
  have hattrs : (Origin.typed e .heading).attributes base inside =
      e.finish base ((e.fields .heading).merge (e.styleAttributes base)) := rfl
  rw [hattrs]
  have hlevel : e.LeavesLevel →
      (e.finish base ((e.fields .heading).merge (e.styleAttributes base))).find? "level" =
        some (.text ((e.declaredSize?.map levelOfSize).getD "h2")) := by
    intro h
    obtain ⟨d, hd, hrule⟩ : ∃ d, ModuleDefinition.of? .heading = some d ∧
        field "level" .text [.detected .headingLevel] ∈ d.fields :=
      ⟨_, rfl, List.mem_cons_of_mem _ List.mem_cons_self⟩
    have hfields : (e.fields .heading).find? "level" = some (.text e.headingLevel) := by
      rw [fields, KeyMap.find?_merge, find?_overrides_eq_none h.not_overridden, Option.none_or]
      exact find?_catalogFields hd hrule
    have hname : IsContentName .heading "level" := by decide +kernel
    have hkeeps := keeps_finish hname h.not_overridden hfields base
    rw [← h.headingLevel_eq]
    exact hkeeps.kept fun htype => by cases htype
  have hsize : ¬ e.IsOverridden "font_size" →
      (e.finish base ((e.fields .heading).merge (e.styleAttributes base))).find? "font_size" =
        (e.fontSize? base).map .integer := by
    intro h
    -- The size is no field of the catalog, so it comes from the style.
    have hfields : (e.fields .heading).find? "font_size" = none := by
      rw [fields, KeyMap.find?_merge, find?_overrides_eq_none h, Option.none_or]
      exact find?_catalogFields_heading e (by decide)
    have hvariant : StyleMap.endsAsVariant "font_size" = false := by decide +kernel
    have hunsuffixed := (e.finishes_finish base
      ((e.fields .heading).merge (e.styleAttributes base))).unsuffixed "font_size" (by decide) h
      fun variant hmem => StyleMap.ne_append_of_endsAsVariant hvariant hmem
    rw [hunsuffixed, KeyMap.find?_merge, hfields, Option.or_none, find?_fontSize_styleAttributes]
  refine ⟨hlevel, hsize, fun hleaves hover hplain => ?_⟩
  obtain ⟨size, hdeclared, hfont⟩ := hplain.exists_eq
  refine ⟨size, ?_, ?_⟩
  · rw [hsize hover, hfont, Option.map_some]
  · rw [hlevel hleaves, hdeclared, Option.map_some, Option.getD_some]

end Element

/-! ### Modules -/

namespace Plan

theorem child?_ne_heading (type : ModuleType) : type.child? ≠ some .heading := by
  have hall : ∀ d ∈ ModuleDefinition.all, d.child ≠ some .heading := by decide
  intro h
  obtain ⟨d, hd, hchild⟩ := Option.bind_eq_some_iff.mp h
  exact hall d (List.mem_of_find?_eq_some hd) hchild

/-- A heading is planned for an element of that type only. -/
theorem IsPlanned.exists_eq_typed {threshold : ℕ} {scope : Element → Prop} {p : Plan}
    (hp : p.IsPlanned threshold scope) (htype : p.origin.type? = some .heading) :
    ∃ e, p.origin = .typed e .heading := by
  cases hp with
  | wrapper => cases htype
  | built h =>
    cases h with
    | @typed _ e type =>
      obtain rfl : type = .heading := Option.some.inj htype
      exact ⟨e, rfl⟩
    | @item _ _ _ child _ hchild =>
      obtain rfl : child = .heading := Option.some.inj htype
      exact absurd hchild (child?_ne_heading _)
    | @recognized e r _ hr =>
      have hnone : ∀ p ∈ ComponentPattern.all, p.type ≠ .heading := by decide
      obtain ⟨-, pattern, hpattern, hname⟩ :=
        Element.exists_pattern_of_recognize? (recognize?_of_accepted? hr)
      exact absurd (hname.trans (Option.some.inj htype)) (hnone pattern hpattern)
    | @componentItem _ _ i _ hr hi =>
      have hchild := child?_of_accepted? hr hi
      have hheading : i.type = .heading := Option.some.inj htype
      rw [hheading] at hchild
      exact absurd hchild (child?_ne_heading _)
    | _ => cases htype

end Plan

namespace Element

/-- A block that is marked as a heading, with a style. -/
def markedHeading (style : String) : Element :=
  ⟨⟨.html, "div", [⟨.none, "data-jtb-module", "heading"⟩, ⟨.none, "style", style⟩]⟩, [.text "x"]⟩

/-- The size of a heading in the shorthand `font` is no declared one, so the level does not know
it. -/
theorem not_find?_level_shorthand :
    ¬ ∀ (e : Element) (base : Int) (inside : ℕ), e.LeavesLevel → ¬ e.IsOverridden "font_size" →
      ∀ size, ((Origin.typed e .heading).attributes base inside).find? "font_size" =
          some (.integer size) →
        ((Origin.typed e .heading).attributes base inside).find? "level" =
          some (.text (levelOfSize size)) := by
  intro h
  have hleaves : (markedHeading "font: 48px Arial").LeavesLevel := by
    refine ⟨?_, by decide +kernel, by decide +kernel, by decide +kernel⟩
    unfold IsOverridden
    decide +kernel
  have hover : ¬ (markedHeading "font: 48px Arial").IsOverridden "font_size" := by
    unfold IsOverridden
    decide +kernel
  have hdeclared : (markedHeading "font: 48px Arial").declaredSize? = none := by decide +kernel
  have hfont : (markedHeading "font: 48px Arial").fontSize? 16 = some 48 := by decide +kernel
  have hhas := (markedHeading "font: 48px Arial").hasLevel_typed 16 0
  have hsize := hhas.size hover
  have hlevel := hhas.level hleaves
  rw [hfont] at hsize
  rw [h _ 16 0 hleaves hover 48 hsize, hdeclared] at hlevel
  exact absurd (Json.text.inj (Option.some.inj hlevel)) (by decide)

end Element

namespace Conversion

/-- **The level of a heading is that of its font size**, if that is written plainly.  Whatever the
document, the options, the way of reading and the token are, each heading is made of an element of
that type, and has the level and the size that the element gives it. -/
theorem forall₂_hasLevel {d : Document} {body : Element} (hbody : d.body? = some body)
    (options : ConversionOptions) (mode : WalkMode) (token : String) :
    ∃ p, (ofDocument options mode d).outcome token = .page p ∧
      List.Forall₂ (fun q m => m.IsModuleOf options.baseFontSize q ∧
          (m.type = .heading →
            ∃ e, q.origin = .typed e .heading ∧ e.HasLevel options.baseFontSize m.attrs))
        (sourcesOf options mode body) (PageModule.preorderAll p.content) := by
  refine ⟨_, outcome_of_body? options mode hbody token, ?_⟩
  refine forall₂_sourcesOf options mode hbody token fun q m hq _ hm => ⟨hm, fun hheading => ?_⟩
  obtain ⟨e, ho⟩ := hq.exists_eq_typed (hheading ▸ hm.type_eq)
  refine ⟨e, ho, ?_⟩
  rw [hm.attrs_eq, ho]
  exact e.hasLevel_typed _ _

/-- A size behind the shorthand, in points, under another base size. -/
theorem forall₂_hasLevel_points :
    (Document.ofBody [.markedHeading "font: 48px Arial; font-size: 24pt"]).body? =
        some (.plain "body" [.markedHeading "font: 48px Arial; font-size: 24pt"]) ∧
      ∃ p m, (ofDocument { baseFontSize := 20 } .annotated
          (.ofBody [.markedHeading "font: 48px Arial; font-size: 24pt"])).outcome
            "0123456789abc" = .page p ∧
        m ∈ PageModule.preorderAll p.content ∧
        m.attrs.find? "font_size" = some (.integer 31) ∧
        m.attrs.find? "level" = some (.text "h3") := by
  set e := Element.markedHeading "font: 48px Arial; font-size: 24pt" with he
  have hbody := Document.body?_ofBody [e]
  obtain ⟨p, hpage, hall⟩ := forall₂_hasLevel hbody { baseFontSize := 20 } .annotated
    "0123456789abc"
  have htype : e.type? = some .heading := by decide +kernel
  obtain ⟨notes, hplan⟩ := Plan.ofMarked_of_type? 50 htype
  have hleaf : Plan.typedChildren 50 e .heading = [] :=
    Plan.typedChildren_of_leaf 50 (by decide) rfl _
  rw [sourcesOf, plansOf, Plan.ofMarkedBody, Element.contentChildren_plain (by decide +kernel),
    List.map_singleton, hplan, Plan.ofTyped, hleaf] at hall
  obtain ⟨m, rest, hm, -, hcontent⟩ := List.forall₂_cons_left_iff.mp hall
  have hheading : m.type = .heading := (Option.some.inj hm.1.type_eq).symm
  obtain ⟨e', ho, hhas⟩ := hm.2 hheading
  obtain rfl : e = e' := (Origin.typed.inj ho).1
  have hleaves : e.LeavesLevel := by
    refine ⟨?_, by decide +kernel, by decide +kernel, by decide +kernel⟩
    unfold Element.IsOverridden
    decide +kernel
  have hover : ¬ e.IsOverridden "font_size" := by
    unfold Element.IsOverridden
    decide +kernel
  have hplain : e.SizesPlainly 20 :=
    ⟨[("font", "48px Arial")], "24pt", [], by decide +kernel, by simp, .inr (by decide +kernel)⟩
  have hfont : e.fontSize? 20 = some 31 := by decide +kernel
  obtain ⟨size, hsize, hlevel⟩ := hhas.agree hleaves hover hplain
  have hsize' := hhas.size hover
  rw [hfont, hsize] at hsize'
  obtain rfl : size = 31 := Json.integer.inj (Option.some.inj hsize')
  exact ⟨hbody, p, m, hpage, hcontent ▸ List.mem_cons_self, hsize, hlevel⟩

end Conversion

end PageModules
