import PageModules.Mapping.Fields
import PageModules.Proofs.Json.Agreement
import PageModules.Proofs.Layout.WithoutVariants
import PageModules.Proofs.Text.Ascii

/-!
# Fields without the variants of styles

A selector whose conditions do not name the style text of a variant leads to the same elements
without these (`Selector.find?_withoutVariants`). The catalog has no other selectors
(`FieldSource.isPlain_of_mem_catalog`), so a module has the same fields without the variants, and
only the markup that is copied into them may differ (`Element.agree_fields`).
-/

namespace PageModules

/-! ### Selectors -/

/-- Whether no condition asks for the style of a variant. -/
def Compound.isPlain (c : Compound) : Bool := c.tests.all fun t => !variantNames.contains t.name

/-- Whether a path does not ask for the style of a variant. -/
def SelectorPath.isPlain (p : SelectorPath) : Bool :=
  p.ancestors.all (·.isPlain) && p.target.isPlain && p.attr.all fun name =>
    !variantNames.contains name

/-- Whether a selector does not ask for the style of a variant. -/
def Selector.isPlain (s : Selector) : Bool := s.paths.all (·.isPlain)

/-- The hit without the style texts of the variants. -/
def Hit.withoutVariants : Hit → Hit
  | element e => element e.withoutVariants
  | attr value => attr value

theorem not_mem_variantNames {name : String} (h : (!variantNames.contains name) = true) :
    name ∉ variantNames := by
  simpa using h

namespace Compound

theorem holds_withoutVariants {c : Compound} (hc : c.isPlain = true) (e : Element) :
    c.holds e.withoutVariants = c.holds e := by
  have htests : (c.tests.all fun t => t.holds e.withoutVariants) =
      c.tests.all fun t => t.holds e := by
    rw [Bool.eq_iff_iff, List.all_eq_true, List.all_eq_true]
    refine forall₂_congr fun t ht => ?_
    have hname := not_mem_variantNames (List.all_eq_true.mp hc t ht)
    rw [AttrTest.holds, AttrTest.holds, Element.attr?_withoutVariants hname]
  have hnamed : e.withoutVariants.isNamed = e.isNamed := rfl
  have hclass : e.withoutVariants.hasClass = e.hasClass := funext e.hasClass_withoutVariants
  rw [holds, holds, htests, hnamed, hclass]

theorem matchAncestors_withoutVariants {cs : List Compound} (hcs : ∀ c ∈ cs, c.isPlain = true)
    (es : List Element) :
    matchAncestors cs (es.map Element.withoutVariants) = matchAncestors cs es := by
  induction es generalizing cs with
  | nil => rfl
  | cons e es ih =>
    cases cs with
    | nil => rfl
    | cons c cs =>
      obtain ⟨hc, hrest⟩ := List.forall_mem_cons.mp hcs
      rw [List.map_cons, matchAncestors, matchAncestors, holds_withoutVariants hc, ih hrest,
        ih hcs]

end Compound

namespace SelectorPath

variable {p : SelectorPath} (hp : p.isPlain = true)

include hp

theorem leadsTo_withoutVariants (l : Located) : p.leadsTo l.withoutVariants = p.leadsTo l := by
  rw [isPlain, Bool.and_eq_true, Bool.and_eq_true, List.all_eq_true] at hp
  rw [leadsTo, leadsTo, Located.withoutVariants, Compound.holds_withoutVariants hp.1.2,
    Compound.matchAncestors_withoutVariants fun c hc => hp.1.1 c (List.mem_reverse.mp hc)]

/-- A path leads to the same elements without the variants. -/
theorem select_withoutVariants (e : Element) :
    p.select e.withoutVariants = (p.select e).map Element.withoutVariants := by
  have htake (es : List Element) :
      p.pick.take (es.map Element.withoutVariants) =
        (p.pick.take es).map Element.withoutVariants := by
    cases p.pick with
    | all => rfl
    | first => exact List.map_take.symm
    | last =>
      rw [Pick.take, Pick.take, List.getLast?_map]
      cases es.getLast? <;> rfl
  have hleads : p.leadsTo ∘ Located.withoutVariants = p.leadsTo :=
    funext (leadsTo_withoutVariants hp)
  rw [select, select, Element.located_withoutVariants, List.filter_map, hleads, List.map_map,
    ← htake, List.map_map]
  rfl

theorem hit?_withoutVariants (e : Element) :
    p.hit? e.withoutVariants = (p.hit? e).map Hit.withoutVariants := by
  rw [isPlain, Bool.and_eq_true] at hp
  unfold hit?
  cases hattr : p.attr with
  | none => rfl
  | some name =>
    rw [hattr] at hp
    dsimp only
    rw [Element.attr?_withoutVariants (not_mem_variantNames hp.2), Option.map_map]
    rfl

end SelectorPath

namespace Selector

variable {s : Selector} (hs : s.isPlain = true)

include hs

/-- A selector finds the same first hit without the variants. -/
theorem find?_withoutVariants (e : Element) :
    s.find? e.withoutVariants = (s.find? e).map Hit.withoutVariants := by
  rw [find?, find?, List.map_findSome?, ← List.head?_filterMap, ← List.head?_filterMap]
  refine congrArg List.head? (List.filterMap_congr fun p hmem => ?_)
  have hp := List.all_eq_true.mp hs p hmem
  rw [SelectorPath.select_withoutVariants hp, List.head?_map, Function.comp_apply]
  cases (p.select e).head? with
  | none => rfl
  | some c => exact SelectorPath.hit?_withoutVariants hp c

/-- A selector finds the same hits without the variants. -/
theorem findAll_withoutVariants (e : Element) :
    s.findAll e.withoutVariants = (s.findAll e).map Hit.withoutVariants := by
  rw [findAll, findAll, List.map_flatMap]
  refine List.flatMap_congr fun p hmem => ?_
  have hp := List.all_eq_true.mp hs p hmem
  rw [SelectorPath.select_withoutVariants hp, List.filterMap_map, List.map_filterMap]
  exact List.filterMap_congr fun c _ => SelectorPath.hit?_withoutVariants hp c

end Selector

/-! ### Sources -/

/-- Whether the selector of an ASCII text does not ask for the style of a variant.  The text is read
byte by byte. -/
def Selector.isPlainAscii (s : String) : Bool :=
  Text.isAscii s &&
    (Selector.mk (((Text.byteChars s).splitOn ',').filterMap SelectorPath.ofChars?)).isPlain

theorem Selector.isPlain_of_isPlainAscii {s : String} (h : isPlainAscii s = true) :
    (Selector.ofText s).isPlain = true := by
  rw [isPlainAscii, Bool.and_eq_true] at h
  rw [ofText, Text.toList_eq_byteChars h.1]
  exact h.2

/-- Whether a source reads no style of a variant, and no markup where a text may have no value of
the kind. -/
def FieldSource.isPlain (kind : FieldKind) : FieldSource → Bool
  | attr name => !variantNames.contains name
  | selected selector => (Selector.ofText selector).isPlain
  | selectedMarkup selector => (Selector.ofText selector).isPlain && kind != .color
  | _ => true

namespace FieldSource

/-- Whether a source is plain and its selector is an ASCII text. -/
def isPlainAscii (kind : FieldKind) : FieldSource → Bool
  | selected selector => Selector.isPlainAscii selector
  | selectedMarkup selector => Selector.isPlainAscii selector && kind != .color
  | source => source.isPlain kind

theorem isPlain_of_isPlainAscii {kind : FieldKind} {source : FieldSource}
    (h : source.isPlainAscii kind = true) : source.isPlain kind = true := by
  cases source with
  | selected selector => exact Selector.isPlain_of_isPlainAscii h
  | selectedMarkup selector =>
    rw [isPlainAscii, Bool.and_eq_true] at h
    rw [isPlain, Bool.and_eq_true]
    exact ⟨Selector.isPlain_of_isPlainAscii h.1, h.2⟩
  | _ => exact h

/-- All sources of the catalog are plain. -/
theorem isPlain_of_mem_catalog :
    ∀ d ∈ ModuleDefinition.all, ∀ rule ∈ d.fields, ∀ source ∈ rule.sources,
      source.isPlain rule.kind = true := by
  have hascii : ∀ d ∈ ModuleDefinition.all, ∀ rule ∈ d.fields, ∀ source ∈ rule.sources,
      source.isPlainAscii rule.kind = true := by decide +kernel
  exact fun d hd rule hrule source hsource =>
    isPlain_of_isPlainAscii (hascii d hd rule hrule source hsource)

/-- Only what is no colour has no value. -/
theorem isSome_cast? {kind : FieldKind} (hkind : kind ≠ .color) (s : String) :
    (kind.cast? s).isSome = true := by
  cases kind with
  | color => exact absurd rfl hkind
  | array =>
    unfold FieldKind.cast?
    dsimp only
    split <;> rfl
  | _ => rfl

theorem isSome_cast?_hitText_withoutVariants {kind : FieldKind} {asMarkup : Bool}
    (hkind : asMarkup = true → kind ≠ .color) (c : Element) :
    (kind.cast? (hitText asMarkup (.element c.withoutVariants))).isSome =
      (kind.cast? (hitText asMarkup (.element c))).isSome := by
  cases asMarkup with
  | true => rw [isSome_cast? (hkind rfl), isSome_cast? (hkind rfl)]
  | false =>
    change (kind.cast? c.withoutVariants.text).isSome = (kind.cast? c.text).isSome
    rw [Element.text_withoutVariants]

theorem isSome_selectedValue?_withoutVariants {kind : FieldKind} {selector : String}
    {asMarkup : Bool} (hplain : (Selector.ofText selector).isPlain = true)
    (hkind : asMarkup = true → kind ≠ .color) (e : Element) :
    (selectedValue? kind selector asMarkup e.withoutVariants).isSome =
      (selectedValue? kind selector asMarkup e).isSome := by
  unfold selectedValue?
  dsimp only
  rw [Selector.find?_withoutVariants hplain, Selector.findAll_withoutVariants hplain]
  split
  · cases (Selector.ofText selector).findAll e <;> rfl
  · cases (Selector.ofText selector).find? e with
    | none => rfl
    | some hit =>
      cases hit with
      | attr value => rfl
      | element c =>
        have hcast := isSome_cast?_hitText_withoutVariants hkind c
        rw [Option.map_some, Option.bind_some, Option.bind_some, Hit.withoutVariants]
        cases kind <;> exact hcast

/-- A plain source has a value just if it has one without the variants. -/
theorem isSome_value?_withoutVariants {source : FieldSource} {kind : FieldKind}
    (h : source.isPlain kind = true) (e : Element) :
    (source.value? kind e.withoutVariants).isSome = (source.value? kind e).isSome := by
  cases source with
  | attr name =>
    rw [value?, value?, Element.attr?_withoutVariants (not_mem_variantNames h)]
  | selected selector =>
    exact isSome_selectedValue?_withoutVariants h (fun h => Bool.noConfusion h) e
  | selectedMarkup selector =>
    rw [isPlain, Bool.and_eq_true, bne_iff_ne] at h
    exact isSome_selectedValue?_withoutVariants h.1 (fun _ => h.2) e
  | text => rw [value?, value?, Element.text_withoutVariants]
  | innerMarkup => rfl
  | hasClass name => rw [value?, value?, Element.hasClass_withoutVariants]
  | classRest start => rw [value?, value?, Element.classes_withoutVariants]
  | detected detector =>
    cases detector with
    | headingLevel => rfl
    | inputType =>
      change (e.withoutVariants.inputType?.map _).isSome = (e.inputType?.map _).isSome
      rw [Option.isSome_map, Option.isSome_map, Element.isSome_inputType?_withoutVariants]
    | formRole => rfl

end FieldSource

/-! ### Fields -/

namespace Element

variable (e : Element)

theorem catalogFields_eq_ofDraft {type : ModuleType} {d : ModuleDefinition}
    (h : ModuleDefinition.of? type = some d) :
    e.catalogFields type = .ofDraft (d.fields.map fun rule => (rule.name, rule.value? e)) := by
  rw [catalogFields, h]
  dsimp only
  rw [Attributes.ofDraft, List.filterMap_map]
  rfl

/-- A module of any type has the same fields without the variants. -/
theorem agree_fields (type : ModuleType) :
    (e.fields type).Agree .sameKeys (e.withoutVariants.fields type) := by
  rw [fields, fields, overrides_withoutVariants]
  refine .merge ?_ (.refl _ _)
  cases hd : ModuleDefinition.of? type with
  | none =>
    rw [catalogFields, catalogFields, hd]
    exact .refl _ _
  | some d =>
    rw [catalogFields_eq_ofDraft e hd, catalogFields_eq_ofDraft _ hd]
    refine .ofDraft (.map fun rule hrule => ⟨fun _ => ?_, False.elim⟩)
    have hmem : d ∈ ModuleDefinition.all := List.mem_of_find?_eq_some hd
    rw [FieldRule.value?, FieldRule.value?, Option.isSome_or, Option.isSome_or]
    congr 1
    rw [Bool.eq_iff_iff, List.findSome?_isSome_iff, List.findSome?_isSome_iff]
    refine exists_congr fun source => and_congr_right fun hsource => ?_
    rw [FieldSource.isSome_value?_withoutVariants
      (FieldSource.isPlain_of_mem_catalog d hmem rule hrule source hsource)]

end Element

end PageModules
