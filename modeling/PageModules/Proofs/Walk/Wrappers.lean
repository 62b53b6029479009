import PageModules.Proofs.Style.Categories
import PageModules.Proofs.Walk.Frontier
import PageModules.Proofs.Walk.Precedence

/-!
# The sections around transparent elements

In a document that is read by its markers, an element of no type with several modules inside gives a
section.  Unlike all other modules that are made of an element, the section is not finished by it:
it has the attributes of the style and no others (`Element.exists_pageSection_of_type?_eq_none`).

So the variants of the style and the author overrides of such an element are lost.  Only an element
that adds nothing (`Element.AddsNothing`) gives the section that finishing would give, because
finishing the attributes of a style changes them as soon as there is anything to add
(`Element.finish_styleAttributes_eq_iff`).
-/

namespace PageModules

namespace Element

/-! ### Finishing the attributes of a style -/

/-- The element has nothing to add to the attributes of its style. -/
structure AddsNothing (e : Element) (base : Int) : Prop where
  /-- No variant of the style gives anything. -/
  not_variantGives : ∀ key v, ¬ e.VariantGives base key v
  /-- The author overrides that stay repeat what the style gives. -/
  override_eq : ∀ key ∉ transientKeys, ∀ v, e.overrides.find? key = some v →
    (e.styleAttributes base).find? key = some v

theorem not_mem_styleKeys_of_mem_transientKeys :
    ∀ key ∈ transientKeys, key ∉ StyleMap.styleKeys := by
  decide +kernel

theorem endsAsVariant_of_mem_transientKeys :
    ∀ key ∈ transientKeys, StyleMap.endsAsVariant key = false := by
  decide +kernel

/-- What a variant gives stays, and the style gives nothing in its place. -/
theorem VariantGives.not_mem {e : Element} {base : Int} {key : String} {v : Json}
    (h : e.VariantGives base key v) : key ∉ transientKeys ∧ key ∉ StyleMap.styleKeys := by
  obtain ⟨variant, hvariant, -, k, -, hkey, -⟩ := h
  constructor
  · intro hmem
    exact StyleMap.ne_append_of_endsAsVariant (endsAsVariant_of_mem_transientKeys key hmem)
      hvariant k hkey
  · intro hmem
    exact StyleMap.ne_append_of_endsAsVariant (StyleMap.endsAsVariant_of_mem_styleKeys key hmem)
      hvariant k hkey

/-- Finishing leaves the attributes of the style alone only where there is nothing to add. -/
theorem finish_styleAttributes_eq_iff (e : Element) (base : Int) :
    e.finish base (e.styleAttributes base) = e.styleAttributes base ↔ e.AddsNothing base := by
  constructor
  · intro h
    have hfind (key : String) (hkey : key ∉ transientKeys) := find?_finish_of_not_mem hkey e base
      (e.styleAttributes base)
    rw [h] at hfind
    constructor
    · -- What a variant gives would come in addition, as the style gives nothing in its place.
      intro key v hv
      obtain ⟨hkey, hstyle⟩ := hv.not_mem
      have hnone := hfind key hkey
      rw [find?_styleAttributes_eq_none hstyle,
        (find?_variantAttributes_eq_some_iff e base key v).mpr hv, Option.some_or] at hnone
      cases hover : e.overrides.find? key <;> rw [hover] at hnone <;> cases hnone
    · intro key hkey v hv
      rw [hfind key hkey, hv, Option.some_or]
  · intro h
    refine KeyMap.ext_find? fun key => ?_
    by_cases hkey : key ∈ transientKeys
    · rw [find?_finish_of_mem hkey,
        find?_styleAttributes_eq_none (not_mem_styleKeys_of_mem_transientKeys key hkey)]
    · have hvariant : (e.variantAttributes base).find? key = none := by
        rw [Option.eq_none_iff_forall_ne_some]
        intro v hv
        exact h.not_variantGives key v ((find?_variantAttributes_eq_some_iff e base key v).mp hv)
      rw [find?_finish_of_not_mem hkey, hvariant, Option.none_or]
      cases hover : e.overrides.find? key with
      | none => rw [Option.none_or]
      | some v => rw [Option.some_or, h.override_eq key hkey v hover]

theorem addsNothing_of_forall {e : Element}
    (hvariant : ∀ variant ∈ styleVariants, e.filledAttr? variant.1 = none)
    (hover : ∀ a ∈ e.tag.attrs, overrideKey? a.name = none) (base : Int) : e.AddsNothing base := by
  constructor
  · rintro key v ⟨variant, hmem, text, -, htext, -⟩
    rw [hvariant variant hmem] at htext
    cases htext
  · intro key _ v hv
    obtain ⟨a, ha, hkey, -⟩ := exists_of_find?_overrides hv
    rw [hover a ha] at hkey
    cases hkey

/-! ### The section around the modules of the children -/

variable (options : ConversionOptions)

/-- An element of a known type has the module of this type. -/
theorem markedModule?_of_type? {e : Element} {type : ModuleType} (h : e.type? = some type) :
    e.markedModule? options =
      some (Plan.typedModule options.threshold options.baseFontSize e type) := by
  rw [markedModule?, Plan.module?, Plan.drafts_ofMarked_of_type? _ _ h, List.head?_cons]

theorem attrs_wrapping (e : Element) :
    (e.wrapping options).attrs = e.styleAttributes options.baseFontSize := by
  rw [wrapping, Draft.attrs]

/-- **The section around several modules is not finished**: it holds the modules of the children
and has the attributes of the style alone, which are what finishing gives just where the element has
nothing to add. -/
theorem exists_pageSection_of_type?_eq_none {e : Element} (htype : e.type? = none)
    (htwo : 2 ≤ e.contentChildren.countP fun c => (c.markedModule? options).isSome) :
    ∃ m, e.markedModule? options = some m ∧ m.type = .pageSection ∧
      m.children = e.yielded options ∧ m.attrs = e.styleAttributes options.baseFontSize ∧
      (m.attrs = e.finish options.baseFontSize (e.styleAttributes options.baseFontSize) ↔
        e.AddsNothing options.baseFontSize) := by
  refine ⟨e.wrapping options, (isTransparent_of_none options htype).wraps.mpr htwo, rfl, rfl,
    attrs_wrapping options e, ?_⟩
  rw [attrs_wrapping, ← finish_styleAttributes_eq_iff, eq_comm]

/-- An element around two rules. -/
def aroundRules (attrs : List Attr) : Element :=
  ⟨⟨.html, "div", attrs⟩, [plain "hr" [], plain "hr" []].map toNode⟩

theorem two_le_countP_aroundRules (attrs : List Attr) :
    2 ≤ (aroundRules attrs).contentChildren.countP fun c => (c.markedModule? options).isSome := by
  have hplain : (plain "div" [plain "hr" [], plain "hr" []]).contentChildren =
      [plain "hr" [], plain "hr" []] :=
    contentChildren_plain (by decide)
  have hchildren : (aroundRules attrs).contentChildren = [plain "hr" [], plain "hr" []] := hplain
  have htype : (plain "hr" []).type? = some .divider := by decide +kernel
  rw [hchildren]
  simp only [List.countP_cons, List.countP_nil, markedModule?_of_type? options htype,
    Option.isSome_some, if_true]
  omega

/-- A style without variants and overrides, which the section has in full. -/
def paddedRules : Element := aroundRules [⟨.none, "style", "padding-top: 5px"⟩]

theorem exists_pageSection_paddedRules :
    paddedRules.type? = none ∧
      (2 ≤ paddedRules.contentChildren.countP fun c => (c.markedModule? {}).isSome) ∧
      ∃ m, paddedRules.markedModule? {} = some m ∧ m.type = .pageSection ∧
        m.attrs = paddedRules.finish 16 (paddedRules.styleAttributes 16) := by
  have htype : paddedRules.type? = none := by decide +kernel
  have htwo : 2 ≤ paddedRules.contentChildren.countP fun c => (c.markedModule? {}).isSome :=
    two_le_countP_aroundRules {} _
  have hnothing : paddedRules.AddsNothing 16 := addsNothing_of_forall (by decide) (by decide) 16
  obtain ⟨m, hm, hsection, -, -, hfinish⟩ := exists_pageSection_of_type?_eq_none {} htype htwo
  exact ⟨htype, htwo, m, hm, hsection, hfinish.mpr hnothing⟩

/-- An anchor and a style for hovering, which the section lacks. -/
def anchoredRules : Element :=
  aroundRules [⟨.none, "data-jtb-attr-anchor", "top"⟩,
    ⟨.none, "data-jtb-hover-style", "padding-top: 5px"⟩]

/-- The section does not have the anchor that finishing would give it. -/
theorem find?_anchor_anchoredRules :
    ∃ m, anchoredRules.markedModule? {} = some m ∧ m.type = .pageSection ∧
      m.attrs.find? "anchor" = none ∧
      (anchoredRules.finish 16 (anchoredRules.styleAttributes 16)).find? "anchor" =
        some (attributeValue "top") := by
  have htype : anchoredRules.type? = none := by decide +kernel
  have htwo : 2 ≤ anchoredRules.contentChildren.countP fun c => (c.markedModule? {}).isSome :=
    two_le_countP_aroundRules {} _
  have hstyle : "anchor" ∉ StyleMap.styleKeys := by decide +kernel
  have hnone : (anchoredRules.styleAttributes 16).find? "anchor" = none :=
    find?_styleAttributes_eq_none hstyle anchoredRules 16
  have hfinishes := anchoredRules.finishes_finish 16 (anchoredRules.styleAttributes 16)
  have hanchor := hfinishes.override "anchor" (by decide) ⟨.none, "data-jtb-attr-anchor", "top"⟩
    (by decide) (by decide) (by decide)
  refine ⟨anchoredRules.wrapping {}, (isTransparent_of_none {} htype).wraps.mpr htwo, rfl, ?_,
    hanchor⟩
  rw [attrs_wrapping]
  exact hnone

end Element

end PageModules
