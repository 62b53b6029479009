import Mathlib.Data.List.Forall2
import Mathlib.Data.List.InsertIdx
import PageModules.Component.Extraction
import PageModules.Proofs.Json.Agreement
import PageModules.Proofs.Layout.WithoutVariants

/-!
# Components without the variants of styles

The score of a pattern is read from tags, classes, texts and a few attributes, none of which holds
the style of a variant, so an element is recognized as the same component without these
(`Element.alike_recognize?`). What is read of the component has the same keys in the same items
(`Component.alike_ofElement`); only markup that is copied may differ.
-/

namespace PageModules

/-! ### Scores -/

namespace Element

variable (e : Element)

@[simp] theorem isCard_withoutVariants : e.withoutVariants.isCard = e.isCard := by
  rw [isCard, isCard, tagName_withoutVariants, hasAnyClass_withoutVariants,
    hasBelow_withoutVariants, hasBelow_withoutVariants]

@[simp] theorem repeatedChildren_withoutVariants (classes : List String) :
    e.withoutVariants.repeatedChildren classes =
      (e.repeatedChildren classes).map withoutVariants := by
  rw [repeatedChildren, repeatedChildren, childElements_withoutVariants, List.filter_map]
  simp only [Function.comp_def, hasAnyClass_withoutVariants, tagName_withoutVariants]

@[simp] theorem headerAndContent?_withoutVariants (headerClasses contentClasses : List String) :
    e.withoutVariants.headerAndContent? headerClasses contentClasses =
      (e.headerAndContent? headerClasses contentClasses).map
        (Prod.map withoutVariants withoutVariants) := by
  unfold headerAndContent?
  simp only [childElements_withoutVariants, List.findIdx?_map, Function.comp_def,
    hasAnyClass_withoutVariants, tagName_withoutVariants, List.eraseIdx_map, List.getElem?_map,
    List.find?_map, ← Option.map_or, Option.bind_map, Option.map_bind, Option.map_map]
  rfl

@[simp] theorem accordionParts?_withoutVariants :
    e.withoutVariants.accordionParts? =
      e.accordionParts?.map (Prod.map withoutVariants withoutVariants) :=
  e.headerAndContent?_withoutVariants _ _

@[simp] theorem hasIcon_withoutVariants : e.withoutVariants.hasIcon = e.hasIcon := by
  rw [hasIcon, hasIcon, hasBelow_withoutVariants, hasClassBelow_withoutVariants]

@[simp] theorem embeds_withoutVariants (sites : List String) :
    e.withoutVariants.embeds sites = e.embeds sites := by
  rw [embeds, embeds, descendantsNamed_withoutVariants, List.any_map]
  simp (disch := decide) only [Function.comp_def, attr?_withoutVariants]

@[simp] theorem linksTo_withoutVariants (networks : List String) :
    e.withoutVariants.linksTo networks = e.linksTo networks := by
  rw [linksTo, linksTo, descendantsNamed_withoutVariants, List.any_map]
  simp (disch := decide) only [Function.comp_def, attr?_withoutVariants]

@[simp] theorem isSubmitButton_withoutVariants :
    e.withoutVariants.isSubmitButton = e.isSubmitButton := by
  rw [isSubmitButton, isSubmitButton, attr?_withoutVariants (by decide)]

@[simp] theorem isTextInput_withoutVariants :
    e.withoutVariants.isTextInput = e.isTextInput := by
  rw [isTextInput, isTextInput, attr?_withoutVariants (by decide)]

end Element

open Element

/-- A check gives the same points without the variants. -/
theorem ComponentCheck.score_withoutVariants (e : Element) (check : ComponentCheck) :
    check.score e.withoutVariants = check.score e := by
  have htype (i : Element) : i.withoutVariants.attr? "type" = i.attr? "type" :=
    attr?_withoutVariants (by decide)
  have hstyle : e.withoutVariants.attr? "style" = e.attr? "style" :=
    attr?_withoutVariants (by decide)
  have hbackground : e.withoutVariants.attr? "data-background" = e.attr? "data-background" :=
    attr?_withoutVariants (by decide)
  have hbg : e.withoutVariants.attr? "data-bg" = e.attr? "data-bg" :=
    attr?_withoutVariants (by decide)
  cases check <;>
    simp only [score, hasBelow_withoutVariants, hasIcon_withoutVariants,
      hasClassBelow_withoutVariants, text_withoutVariants, linksTo_withoutVariants,
      embeds_withoutVariants, descendantsNamed_withoutVariants, List.any_map, Function.comp_def,
      isTextInput_withoutVariants, isSubmitButton_withoutVariants, htype, hstyle, hbackground, hbg]

/-- Children give the same points without the variants. -/
theorem ChildrenRule.score_withoutVariants (e : Element) (least : ℕ) (rule : ChildrenRule) :
    rule.score e.withoutVariants least = rule.score e least := by
  cases rule <;>
    simp only [score, repeatedChildren_withoutVariants, List.length_map,
      childElements_withoutVariants, List.countP_map, Function.comp_def,
      accordionParts?_withoutVariants, Option.isSome_map, countDescendants_withoutVariants,
      isCard_withoutVariants]

namespace ComponentPattern

/-- No pattern asks for the style of a variant. -/
theorem not_mem_variantNames_of_mem_attrs :
    ∀ p ∈ all, ∀ a ∈ p.attrs, a.1 ∉ variantNames := by
  decide +kernel

/-- A pattern has the same score without the variants. -/
theorem score_withoutVariants (e : Element) {p : ComponentPattern} (hp : p ∈ all) :
    p.score e.withoutVariants = p.score e := by
  have hchildren : p.childrenScore e.withoutVariants = p.childrenScore e := by
    unfold childrenScore
    cases p.children with
    | none => rfl
    | some rule => exact rule.score_withoutVariants e _
  have hattrs (n : UInt32) : p.attrs.foldl (fun n a => n + attrScore e.withoutVariants a) n =
      p.attrs.foldl (fun n a => n + attrScore e a) n := by
    refine List.foldl_ext _ _ n fun n a ha => congrArg (n + ·) ?_
    obtain ⟨name, value⟩ := a
    have hname : name ∉ variantNames := not_mem_variantNames_of_mem_attrs p hp _ ha
    cases value <;> simp only [attrScore, attr?_withoutVariants hname]
  have hveto : p.isVetoed e.withoutVariants = p.isVetoed e := by
    rw [isVetoed, isVetoed, hchildren]
    rfl
  simp only [score, classScore, classes_withoutVariants, hveto, hchildren, hattrs,
    ComponentCheck.score_withoutVariants]

@[simp] theorem best?_withoutVariants (e : Element) : best? e.withoutVariants = best? e := by
  have hcandidates : candidates e.withoutVariants = candidates e := by
    rw [candidates, candidates]
    exact congrArg (List.filter _)
      (List.map_congr_left fun p hp => congrArg (Prod.mk p) (score_withoutVariants e hp))
  rw [best?, best?, hcandidates]

end ComponentPattern

/-! ### Parts -/

namespace Element

variable (e : Element)

@[simp] theorem buttonDraft_withoutVariants : e.withoutVariants.buttonDraft = e.buttonDraft := by
  have hlinks : e.withoutVariants.buttonLinks = e.buttonLinks := by
    unfold buttonLinks
    simp (disch := decide) only [descendantsNamed_withoutVariants, List.filter_map, List.map_map,
      Function.comp_def, attr?_withoutVariants, text_withoutVariants, hasAnyClass_withoutVariants]
  rw [buttonDraft, buttonDraft, hlinks]

@[simp] theorem backgroundAddress?_withoutVariants :
    e.withoutVariants.backgroundAddress? = e.backgroundAddress? := by
  rw [backgroundAddress?, backgroundAddress?, attr?_withoutVariants (by decide)]

@[simp] theorem socialLinks_withoutVariants : e.withoutVariants.socialLinks = e.socialLinks := by
  have hadd (links : List (String × String)) (a : Element) :
      addLink links a.withoutVariants = addLink links a := by
    have hhref : a.withoutVariants.attr? "href" = a.attr? "href" :=
      attr?_withoutVariants (by decide)
    delta addLink
    rw [hhref]
  rw [socialLinks, socialLinks, descendantsNamed_withoutVariants, List.foldl_map]
  simp only [hadd]

end Element

/-! ### Contents -/

/-- Components with the same keys in the same items. -/
structure Component.Alike (c c' : Component) : Prop where
  /-- The components have the same keys. -/
  attrs : c.attrs.Agree .sameKeys c'.attrs
  /-- The items have the same types and keys. -/
  items : List.Forall₂ (fun i i' => i.type = i'.type ∧ i.attrs.Agree .sameKeys i'.attrs)
    c.items c'.items

namespace Component

open AttributeDraft (presence presence_append)

variable (e : Element)

@[simp] theorem textOf_map_withoutVariants (part : Option Element) :
    textOf (part.map withoutVariants) = textOf part := by
  rw [textOf, textOf, Option.map_map]
  congr 2
  funext c
  exact c.text_withoutVariants

theorem isSome_filledText? (s : String) : (Json.filledText? s).isSome = !s.isEmpty := by
  unfold Json.filledText?
  cases s.isEmpty <;> rfl

theorem isSome_markupOf_withoutVariants (c : Element) :
    (markupOf (some c.withoutVariants)).isSome = (markupOf (some c)).isSome := by
  rw [markupOf, markupOf, Option.map_some, Option.map_some, filled, filled, Option.bind_some,
    Option.bind_some, isSome_filledText?, isSome_filledText?, isEmpty_innerMarkup_withoutVariants]

@[simp] theorem isSome_markupOf_map_withoutVariants (part : Option Element) :
    (markupOf (part.map withoutVariants)).isSome = (markupOf part).isSome := by
  cases part with
  | none => rfl
  | some c => exact isSome_markupOf_withoutVariants c

theorem Alike.ofDraft {d d' : AttributeDraft} (h : presence d = presence d') :
    (Component.ofDraft d).Alike (Component.ofDraft d') :=
  ⟨.ofDraft (.of_presence h), .nil⟩

theorem Alike.refl (c : Component) : c.Alike c :=
  ⟨.refl _ _, List.forall₂_same.mpr fun _ _ => ⟨rfl, .refl _ _⟩⟩

theorem alike_slider : (slider e).Alike (slider e.withoutVariants) := by
  constructor
  · refine .of_eq ?_
    unfold slider
    simp (disch := decide) only [attr?_withoutVariants, firstFilledAttr?_withoutVariants]
  · have hslides : slides e.withoutVariants = (slides e).map withoutVariants := by
      unfold slides
      simp only [repeatedChildren_withoutVariants, List.filter_map, Function.comp_def,
        hasAnyClass_withoutVariants, tagName_withoutVariants]
    change List.Forall₂ _ ((slides e).map slideItem) ((slides e.withoutVariants).map slideItem)
    rw [hslides, List.forall₂_map_left_iff, List.forall₂_map_right_iff, List.forall₂_map_right_iff,
      List.forall₂_same]
    refine fun s _ => ⟨rfl, .ofDraft (.of_presence ?_)⟩
    simp [presence]

/-- An item of an accordion is one without the variants, with the same keys. -/
theorem rel_accordionItem? (item : Element) :
    Option.Rel (fun i i' => i.type = i'.type ∧ i.attrs.Agree .sameKeys i'.attrs)
      (accordionItem? item) (accordionItem? item.withoutVariants) := by
  rw [accordionItem?, accordionItem?, accordionParts?_withoutVariants, Option.bind_map]
  cases item.accordionParts? with
  | none => exact .none
  | some parts =>
    obtain ⟨header, content⟩ := parts
    rw [Option.bind_some, Option.bind_some, Function.comp_apply, Prod.map_apply]
    dsimp only
    rw [text_withoutVariants]
    cases Json.filledText? header.text with
    | none => exact .none
    | some title =>
      rw [Option.map_some, Option.map_some]
      refine .some ⟨rfl, .ofDraft (.of_presence ?_)⟩
      simp [presence, isSome_markupOf_withoutVariants]

theorem alike_accordion : (accordion e).Alike (accordion e.withoutVariants) := by
  refine ⟨.refl _ _, ?_⟩
  rw [accordion, accordion, childElements_withoutVariants, List.filterMap_map]
  refine List.rel_filterMap (R := Eq) ?_ (List.forall₂_same.mpr fun _ _ => rfl)
  rintro item _ rfl
  exact rel_accordionItem? item

theorem alike_tabs : (tabs e).Alike (tabs e.withoutVariants) := by
  have hnav : tabNav? e.withoutVariants = (tabNav? e).map withoutVariants := by
    rw [tabNav?, tabNav?, findClass?_withoutVariants, childElements_withoutVariants, List.find?_map,
      Option.map_or]
    rfl
  have htitles : tabTitles e.withoutVariants = tabTitles e := by
    rw [tabTitles, tabTitles, hnav]
    cases tabNav? e with
    | none => rfl
    | some nav =>
      simp only [Option.map_some, descendants_withoutVariants, descendantsNamed_withoutVariants,
        List.filter_map, List.isEmpty_map, Function.comp_def, isOneOf_withoutVariants]
      split <;> simp only [List.map_map, Function.comp_def, text_withoutVariants]
  have hpanels : tabPanels e.withoutVariants = (tabPanels e).map withoutVariants := by
    unfold tabPanels
    simp only [descendants_withoutVariants, List.filter_map, Function.comp_def,
      hasAnyClass_withoutVariants, hasClassBelow_withoutVariants]
  refine ⟨.ofDraft (.of_presence rfl), ?_⟩
  change List.Forall₂ _ ((List.range _).map (tabItem _ _)) ((List.range _).map (tabItem _ _))
  rw [htitles, hpanels, List.length_map, List.forall₂_map_left_iff, List.forall₂_map_right_iff,
    List.forall₂_same]
  exact fun i _ => ⟨rfl, .ofDraft (.of_presence rfl)⟩

theorem alike_gallery : (gallery e).Alike (gallery e.withoutVariants) := .ofDraft rfl

theorem alike_testimonial : (testimonial e).Alike (testimonial e.withoutVariants) := by
  refine .ofDraft ?_
  simp [presence, ← Option.map_or]

theorem alike_teamMember : (teamMember e).Alike (teamMember e.withoutVariants) := by
  refine .ofDraft ?_
  simp [presence, ← Option.map_or]

theorem alike_pricingTable : (pricingTable e).Alike (pricingTable e.withoutVariants) := by
  refine .ofDraft ?_
  have hfeatures (part : Option Element) :
      (filled (part.map ((·.outerMarkup) ∘ withoutVariants))).isSome =
        (filled (part.map (·.outerMarkup))).isSome := by
    cases part with
    | none => rfl
    | some c =>
      rw [Option.map_some, Option.map_some, Function.comp_apply, filled, filled, Option.bind_some,
        Option.bind_some, isSome_filledText?, isSome_filledText?, isEmpty_outerMarkup,
        isEmpty_outerMarkup]
  cases hprice : e.findClass? ["price", "amount", "cost"] with
  | none => simp [presence, hprice, hfeatures]
  | some p => simp [presence, hprice, hfeatures]

theorem alike_socialFollow : (socialFollow e).Alike (socialFollow e.withoutVariants) := by
  rw [socialFollow, socialFollow, socialLinks_withoutVariants]
  exact .refl _

theorem alike_contactForm : (contactForm e).Alike (contactForm e.withoutVariants) := by
  refine ⟨.ofDraft (.of_presence rfl), ?_⟩
  have hfield (control : Element) :
      formField? e.withoutVariants control.withoutVariants = formField? e control := by
    have hlabel : labelOf? e.withoutVariants = Option.map withoutVariants ∘ labelOf? e := by
      funext id
      rw [Function.comp_apply, labelOf?, labelOf?, descendantsNamed_withoutVariants, List.find?_map]
      simp (disch := decide) only [Function.comp_def, attr?_withoutVariants]
    have htitle (id : Option String) : textOf (id.bind (labelOf? e.withoutVariants)) =
        textOf (id.bind (labelOf? e)) := by
      rw [hlabel, ← Option.map_bind, textOf_map_withoutVariants]
    simp (disch := decide) only [formField?, controlKind?, tagName_withoutVariants,
      attr?_withoutVariants, filledAttr?_withoutVariants, htitle]
  change List.Forall₂ _ (e.descendants.filterMap (formField? e))
    (e.withoutVariants.descendants.filterMap (formField? e.withoutVariants))
  rw [descendants_withoutVariants, List.filterMap_map, Function.comp_def]
  simp only [hfield]
  exact (Alike.refl (contactForm e)).items

theorem alike_countdown : (countdown e).Alike (countdown e.withoutVariants) := by
  rw [countdown, countdown, firstFilledAttr?_withoutVariants _ (by decide)]
  exact .refl _

theorem alike_numberCounter : (numberCounter e).Alike (numberCounter e.withoutVariants) := by
  have hnumber : (e.withoutVariants.findClass? ["number", "count", "value", "digit"]).map (·.text) =
      (e.findClass? ["number", "count", "value", "digit"]).map (·.text) := by
    rw [findClass?_withoutVariants, Option.map_map]
    simp only [Function.comp_def, text_withoutVariants]
  rw [numberCounter, numberCounter, firstFilledAttr?_withoutVariants _ (by decide), hnumber,
    findClass?_withoutVariants, textOf_map_withoutVariants]
  exact .refl _

theorem alike_map : (map e).Alike (map e.withoutVariants) := by
  simp (disch := decide) only [map, findDescendant?_withoutVariants, Option.bind_map,
    Function.comp_def, attr?_withoutVariants, filledAttr?_withoutVariants]
  exact .refl _

theorem alike_video : (video e).Alike (video e.withoutVariants) := by
  simp (disch := decide) only [video, findDescendant?_withoutVariants, Option.bind_map,
    Function.comp_def, filledAttr?_withoutVariants]
  exact .refl _

theorem alike_plain : (plain e).Alike (plain e.withoutVariants) := by
  refine .ofDraft ?_
  simp [presence]

/-- **Components do not depend on the variants**: without these, a component of any type has the
same keys in the same items. -/
theorem alike_ofElement (type : ModuleType) :
    (ofElement e type).Alike (ofElement e.withoutVariants type) := by
  cases type with
  | slider => exact alike_slider e
  | accordion => exact alike_accordion e
  | tabs => exact alike_tabs e
  | gallery => exact alike_gallery e
  | testimonial => exact alike_testimonial e
  | teamMember => exact alike_teamMember e
  | pricingTable => exact alike_pricingTable e
  | socialFollow => exact alike_socialFollow e
  | contactForm => exact alike_contactForm e
  | countdown => exact alike_countdown e
  | numberCounter => exact alike_numberCounter e
  | map => exact alike_map e
  | video => exact alike_video e
  | _ => exact alike_plain e

end Component

/-! ### Recognition -/

/-- The same component with the same confidence. -/
structure Recognition.Alike (r r' : Recognition) : Prop where
  /-- The types are the same. -/
  type_eq : r.type = r'.type
  /-- The recognitions are equally sure. -/
  confidence_eq : r.confidence = r'.confidence
  /-- The components are alike. -/
  component : r.component.Alike r'.component

/-- **The variants do not count in recognition**: without these an element is recognized as the same
component, equally surely, or not at all. -/
theorem Element.alike_recognize? (e : Element) :
    Option.Rel Recognition.Alike e.recognize? e.withoutVariants.recognize? := by
  rw [recognize?, recognize?, ComponentPattern.best?_withoutVariants]
  cases ComponentPattern.best? e with
  | none => exact .none
  | some best => exact .some ⟨rfl, rfl, Component.alike_ofElement e best.1.type⟩

end PageModules
