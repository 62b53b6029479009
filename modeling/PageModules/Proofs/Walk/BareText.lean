import PageModules.Proofs.Component.PlainText
import PageModules.Proofs.Json.Agreement
import PageModules.Proofs.Walk.Precedence
import PageModules.Proofs.Walk.Threshold

/-!
# Paragraphs and headings of plain text

Components are recognized before the tag of an element is looked at, and some of them by their text
alone. So what the walk makes of a paragraph or a heading that holds nothing but text hangs on what
the text says (`Plan.drafts_ofContent_of_isBareText`): a countdown, a price table or a counter, and
a text or a heading only where it speaks neither of time nor of prices nor of numbers.
-/

namespace PageModules

namespace Element.IsBareText

variable {e : Element} (h : e.IsBareText) (base : Int)

include h

/-! ### Types -/

theorem marker?_eq_none : e.marker? = none := by
  rw [marker?, filledAttr?, h.attr?_eq_none]
  rfl

theorem likelyType?_of_paragraph (hname : e.tagName = "p") : e.likelyType? = some .text := by
  have hheading : headingLevels.contains "p" = false := by decide
  have htag : e.tagType? = none := by
    rw [tagType?, hname, hheading]
    rfl
  have hembed : e.embedType? = none := by
    rw [embedType?, hname]
    rfl
  have hclass : e.classType? = none := by
    have hnone : ModuleDefinition.ofClasses? [] = none := by decide
    rw [classType?, h.classes_eq_nil, hnone]
    rfl
  have hform : e.formType? = none := by
    rw [formType?, hname]
    rfl
  have hbutton : e.buttonType? = none := by
    rw [buttonType?, hname]
    rfl
  have hleaf : e.leafType? = some .text := by
    rw [leafType?, hname]
    rfl
  rw [likelyType?, htag, hembed, hclass, hform, hbutton, hleaf]
  rfl

omit h in
theorem likelyType?_of_heading (hname : e.tagName ∈ headingLevels) :
    e.likelyType? = some .heading := by
  have htag : e.tagType? = some .heading := by
    rw [tagType?, if_pos (List.contains_iff_mem.mpr hname)]
  rw [likelyType?, htag]
  simp only [Option.some_or]

omit h in
/-- A paragraph or a heading is no form. -/
theorem isNamed_form_eq_false (hname : e.tagName ∈ "p" :: headingLevels) :
    e.isNamed "form" = false := by
  have hnames : ∀ s ∈ "p" :: headingLevels, s ≠ "form" := by decide
  rw [Bool.eq_false_iff]
  intro hform
  have htag : e.tagName = Text.lowercase "form" := isNamed_iff.mp hform
  exact hnames _ hname htag

/-! ### Attributes -/

theorem styleAttributes_eq_empty : e.styleAttributes base = .empty := by
  rw [styleAttributes, style, h.attr?_eq_none]
  rfl

theorem variantAttributes_eq_empty : e.variantAttributes base = .empty := by
  rw [variantAttributes, h.attr?_eq_none, h.attr?_eq_none, h.attr?_eq_none]
  rfl

theorem overrides_eq_empty : e.overrides = .empty := by
  rw [overrides, h.attrs_eq]
  rfl

/-- There is nothing to finish, but transient keys do not stay. -/
theorem finish_ofDraft {draft : AttributeDraft} (keys : List String)
    (hdraft : draft.map Prod.fst = keys) (hkeys : ∀ key ∈ transientKeys, key ∉ keys) :
    e.finish base ((Attributes.ofDraft draft).merge (e.styleAttributes base)) =
      Attributes.ofDraft draft := by
  refine KeyMap.ext_find? fun key => ?_
  by_cases hkey : key ∈ transientKeys
  · rw [Element.find?_finish_of_mem hkey,
      Attributes.find?_ofDraft_of_not_mem (hdraft ▸ hkeys key hkey)]
  · rw [Element.find?_finish_of_not_mem hkey, h.overrides_eq_empty, h.variantAttributes_eq_empty,
      h.styleAttributes_eq_empty, KeyMap.find?_merge, KeyMap.find?_empty, Option.none_or,
      Option.none_or, Option.none_or]

theorem fields_eq (type : ModuleType) : e.fields type = e.catalogFields type := by
  refine KeyMap.ext_find? fun key => ?_
  rw [fields, h.overrides_eq_empty, KeyMap.find?_merge, KeyMap.find?_empty, Option.none_or]

omit h in
theorem catalogFields_text :
    e.catalogFields .text = .ofDraft [("content", some (.text e.innerMarkup))] :=
  rfl

theorem headingLevel_eq (hname : e.tagName ∈ headingLevels) : e.headingLevel = e.tagName := by
  have hover : e.levelOverride? = none := by
    rw [levelOverride?, override?, h.attrs_eq]
    rfl
  have hown : e.ownLevel? = some e.tagName := by
    have hsome : e.ownLevel?.isSome = true :=
      List.find?_isSome.mpr ⟨e.tagName, hname, beq_self_eq_true _⟩
    obtain ⟨level, hlevel⟩ := Option.isSome_iff_exists.mp hsome
    have heq : level = e.tagName :=
      beq_iff_eq.mp (List.find?_some (p := (· == e.tagName)) hlevel)
    rw [hlevel, heq]
  rw [headingLevel, hover, hown]
  rfl

theorem selectedValue?_eq_none (kind : FieldKind) (hkind : kind ≠ .array) (selector : String) :
    FieldSource.selectedValue? kind selector false e = none := by
  have hlocated : e.located = [] := by
    rw [← List.map_eq_nil_iff (f := (·.element)), map_element_located, h.descendants_eq_nil]
  have hselect (p : SelectorPath) : p.select e = [] := by
    rw [SelectorPath.select, hlocated]
    cases p.pick <;> rfl
  have hfind (s : Selector) : s.find? e = none := by
    rw [Selector.find?, List.findSome?_eq_none_iff]
    intro p _
    rw [hselect]
    rfl
  unfold FieldSource.selectedValue?
  dsimp only
  rw [if_neg hkind, hfind]
  rfl

theorem catalogFields_heading (hname : e.tagName ∈ headingLevels) :
    e.catalogFields .heading =
      .ofDraft [("text", some (.text e.text)), ("level", some (.text e.tagName))] := by
  have hauthored (name : String) (kind : FieldKind) (hkind : kind ≠ .array)
      (attr selector : String) :
      (field name kind [author attr, .selected selector]).value? e = none := by
    have hattr : (author attr).value? kind e = none := by
      rw [author, FieldSource.value?, h.attr?_eq_none]
      rfl
    have hselected : (FieldSource.selected selector).value? kind e = none :=
      h.selectedValue?_eq_none kind hkind selector
    rw [FieldRule.value?, field, List.findSome?_cons, hattr, List.findSome?_cons, hselected]
    rfl
  have hlevel : (field "level" .text [.detected .headingLevel]).value? e =
      some (.text e.tagName) := by
    rw [← h.headingLevel_eq hname]
    rfl
  have hrules : e.catalogFields .heading = .ofList ([
      field "text" .text [.text], field "level" .text [.detected .headingLevel],
      field "link_url" .text [author "link-url", .selected "a@href"],
      field "link_target" .bool [author "link-target", .selected "a@target"]].filterMap fun rule =>
        (rule.value? e).map fun v => (rule.name, v)) := rfl
  rw [hrules, List.filterMap_cons, List.filterMap_cons, List.filterMap_cons, List.filterMap_cons,
    hlevel, hauthored _ _ (by decide), hauthored _ _ (by decide)]
  rfl

end Element.IsBareText

namespace Plan

open Text (NamesTime ShowsPrice ShowsNumber)

variable {e : Element}

/-- What is recognized in an element of text is one module without others inside. -/
theorem drafts_ofContent_of_recognize? {threshold : ℕ} (hthreshold : threshold < 100)
    (h : e.IsBareText) {type : ModuleType} (htype : e.recognize?.map (·.type) = some type)
    (hitems : (Component.ofElement e type).items = []) (base : Int) :
    ∃ attrs, (ofContent threshold e).drafts base = [.node type attrs false []] := by
  obtain ⟨r, hr, rfl⟩ := Option.map_eq_some_iff.mp htype
  have hcomponent := (Element.exists_pattern_of_recognize? hr).1
  have hfit : e.ScoresFit := Element.scoresFit_of_length_le (by simp [h.descendants_eq_nil])
  have hsure := Element.confidence_of_recognize? hfit hr
  rw [ofContent_of_recognize? h.marker?_eq_none hr (hthreshold.trans_eq hsure.symm), ofRecognition,
    hcomponent, hitems]
  exact ⟨_, rfl⟩

/-- An element that is not recognized is a module of the type that it suggests. -/
theorem drafts_ofContent_of_likelyType? (threshold : ℕ) (hmarker : e.marker? = none)
    (hrecognize : e.recognize? = none) {type : ModuleType} (htype : e.likelyType? = some type)
    (hchild : type.child? = none) (hframe : type.isFrame = false) (base : Int) :
    (ofContent threshold e).drafts base = [.node type
      (e.finish base ((e.fields type).merge (e.styleAttributes base))) false []] := by
  have haccepted : accepted? threshold e = none := by
    rw [accepted?, hrecognize, Option.filter_none, ite_self]
  have hrow : type ≠ .row := by
    rintro rfl
    cases hframe
  have hattrs : Origin.attributes base 0 (.typed e type) =
      e.finish base ((e.fields type).merge (e.styleAttributes base)) := by
    rw [Origin.attributes, Origin.typedAttributes]
    simp only [if_neg hrow]
  rw [ofContent_of_likelyType? (markedType?_of_marker? hmarker) haccepted htype, ofTyped,
    typedChildren_of_leaf threshold hchild hframe, ← hattrs]
  rfl

theorem isBareText_paragraph {s : String} (h : (Element.paragraph s).text ≠ "") :
    (Element.paragraph s).IsBareText where
  attrs_eq := rfl
  text_of_mem := List.forall_mem_singleton.mpr ⟨s, rfl⟩
  text_ne := h

/-- **What a text says decides what it becomes**: a paragraph or a heading without attributes that
holds nothing but text, which is not blank, is a countdown if it names a unit of time, or else a
price table if it shows a price, or else a counter if it shows a number; otherwise a paragraph is a
text with its markup and a heading is a heading with its text and level.  In any case it is one
module without others inside. -/
theorem drafts_ofContent_of_isBareText (h : e.IsBareText)
    (hname : e.tagName ∈ "p" :: Element.headingLevels) (base : Int) :
    let drafts := (ofContent ({} : ConversionOptions).threshold e).drafts base
    (NamesTime e.text → ∃ attrs, drafts = [.node .countdown attrs false []]) ∧
      (¬ NamesTime e.text → ShowsPrice e.text.toList →
        ∃ attrs, drafts = [.node .pricingTable attrs false []]) ∧
      (¬ NamesTime e.text → ¬ ShowsPrice e.text.toList → ShowsNumber e.text.toList →
        ∃ attrs, drafts = [.node .numberCounter attrs false []]) ∧
      (¬ NamesTime e.text → ¬ ShowsPrice e.text.toList → ¬ ShowsNumber e.text.toList →
        (e.tagName = "p" → drafts =
          [.node .text (.ofDraft [("content", some (.text e.innerMarkup))]) false []]) ∧
        (e.tagName ∈ Element.headingLevels → drafts = [.node .heading (.ofDraft
          [("text", some (.text e.text)), ("level", some (.text e.tagName))]) false []])) := by
  intro drafts
  have hform := Element.IsBareText.isNamed_form_eq_false hname
  have hmarker := h.marker?_eq_none
  obtain ⟨htime, hprice, hnumber, hnone⟩ := Element.type_recognize?_of_isBareText h hform
  have hthreshold : ({} : ConversionOptions).threshold < 100 := by decide
  refine ⟨fun ht => ?_, fun ht hp => ?_, fun ht hp hn => ?_, fun ht hp hn => ⟨?_, ?_⟩⟩
  · exact drafts_ofContent_of_recognize? hthreshold h (htime ht) rfl base
  · exact drafts_ofContent_of_recognize? hthreshold h (hprice ht hp) rfl base
  · exact drafts_ofContent_of_recognize? hthreshold h (hnumber ht hp hn) rfl base
  · intro hp'
    have htype := h.likelyType?_of_paragraph hp'
    have hdrafts := drafts_ofContent_of_likelyType? ({} : ConversionOptions).threshold hmarker
      (hnone ht hp hn) htype (by decide) (by decide) base
    rw [h.fields_eq, Element.IsBareText.catalogFields_text,
      h.finish_ofDraft base ["content"] rfl (by decide)] at hdrafts
    exact hdrafts
  · intro hlevel
    have htype := Element.IsBareText.likelyType?_of_heading hlevel
    have hdrafts := drafts_ofContent_of_likelyType? ({} : ConversionOptions).threshold hmarker
      (hnone ht hp hn) htype (by decide) (by decide) base
    rw [h.fields_eq, h.catalogFields_heading hlevel,
      h.finish_ofDraft base ["text", "level"] rfl (by decide)] at hdrafts
    exact hdrafts

/-- A word is a text. -/
theorem drafts_ofContent_paragraph_one :
    (Element.paragraph "one").IsBareText ∧
      (Element.paragraph "one").tagName ∈ "p" :: Element.headingLevels ∧
      (ofContent 50 (.paragraph "one")).drafts 16 =
        [.node .text (.ofDraft [("content", some (.text "one"))]) false []] := by
  have hbare : (Element.paragraph "one").IsBareText := isBareText_paragraph (by decide +kernel)
  have hname : (Element.paragraph "one").tagName ∈ "p" :: Element.headingLevels := by
    decide +kernel
  have htext : (Element.paragraph "one").text = "one" := by decide +kernel
  have hmarkup : (Element.paragraph "one").innerMarkup = "one" := by decide +kernel
  have htime : ¬ NamesTime "one" := by
    rw [← ComponentCheck.any_timeWords_iff]
    decide +kernel
  have hprice : ¬ ShowsPrice "one".toList := by
    rw [← ComponentCheck.isIn_priceText_iff]
    decide +kernel
  have hnumber : ¬ ShowsNumber "one".toList := by
    rw [← ComponentCheck.isIn_largeNumber_iff]
    decide +kernel
  obtain ⟨-, -, -, hplain⟩ := drafts_ofContent_of_isBareText hbare hname 16
  rw [htext] at hplain
  have hdrafts := (hplain htime hprice hnumber).1 (by decide +kernel)
  rw [hmarkup] at hdrafts
  exact ⟨hbare, hname, hdrafts⟩

/-- A price is no text, though it stands in a paragraph by itself. -/
theorem drafts_ofContent_paragraph_price :
    (Element.paragraph "$5").IsBareText ∧ (Element.paragraph "$5").tagName = "p" ∧
      ∃ attrs, (ofContent ({} : ConversionOptions).threshold (.paragraph "$5")).drafts 16 =
        [.node .pricingTable attrs false []] := by
  have hbare : (Element.paragraph "$5").IsBareText := isBareText_paragraph (by decide +kernel)
  have htype : (Element.paragraph "$5").recognize?.map (·.type) = some .pricingTable := by
    decide +kernel
  exact ⟨hbare, by decide +kernel,
    drafts_ofContent_of_recognize? (by decide) hbare htype rfl 16⟩

end Plan

end PageModules
