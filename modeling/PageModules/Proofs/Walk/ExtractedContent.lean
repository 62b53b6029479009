import PageModules.Proofs.Component.Names
import PageModules.Proofs.Mapping.FieldValues
import PageModules.Proofs.Style.Categories
import PageModules.Proofs.Walk.Grammar
import PageModules.Proofs.Walk.Insertion
import PageModules.Proofs.Walk.Precedence

/-!
# Content and style

What a module says is read from what is inside of its element, by the rules of the catalog or by the
reading of a component (`Origin.Extracts`), and its style from the tag of the element.  Both stand
under names of one space, and the style is merged over the content.  The names differ, but for one:
the position of a team member is called like the position of an element.

So the style of an element replaces no content that is read (`Element.Keeps`), except that a team
member with a position in its style loses the position that it has in the team
(`Conversion.forall₂_keeps`).
-/

namespace PageModules

/-! ### Content -/

/-- What is read for a module from what is inside of its element. -/
inductive Origin.Extracts : Origin → Element → String → Json → Prop where
  /-- A field of the catalog with a source inside of the element. -/
  | field {e : Element} {type : ModuleType} {d : ModuleDefinition} {rule : FieldRule}
    {source : FieldSource} {v : Json} (hd : ModuleDefinition.of? type = some d)
    (hrule : rule ∈ d.fields) (hsource : source ∈ rule.sources)
    (hinside : source.readsTag = false) (hv : rule.value? e = some v) :
    Extracts (.typed e type) e rule.name v
  /-- An attribute of a component. -/
  | component {e : Element} {r : Recognition} {key : String} {v : Json}
    (hv : r.component.attrs.find? key = some v) : Extracts (.recognized e r) e key v

namespace Element

/-- The position that the style gives the element. -/
def cssPosition? (e : Element) : Option String :=
  (e.style.expand.get? "position").filter fun p =>
    p = "relative" || p = "absolute" || p = "fixed" || p = "sticky"

/-- A value that is read for a module of a type stays, unless it is the position of a team member:
the position in the style replaces that. -/
structure Keeps (e : Element) (type : ModuleType) (key : String) (v : Json)
    (after : Attributes) : Prop where
  /-- The value stays. -/
  kept : (type = .teamMember → key = "position" → e.cssPosition? = none) →
    after.find? key = some v
  /-- The position in the style replaces the position in the team. -/
  replaced : type = .teamMember → key = "position" → ∀ p, e.cssPosition? = some p →
    after.find? key = some (.text p)

/-! ### Names -/

/-- The style and its variants do not give the name, except the position of a team member; and it is
not transient. -/
structure IsContentName (type : ModuleType) (key : String) : Prop where
  /-- The style does not give the name. -/
  not_style : key ∈ StyleMap.styleKeys → type = .teamMember ∧ key = "position"
  /-- The name does not end as the names of the variants do. -/
  not_variant : StyleMap.endsAsVariant key = false
  /-- The name is not transient. -/
  not_transient : key ∉ transientKeys

instance (type : ModuleType) (key : String) : Decidable (IsContentName type key) :=
  decidable_of_iff ((key ∈ StyleMap.styleKeys → type = .teamMember ∧ key = "position") ∧
      StyleMap.endsAsVariant key = false ∧ key ∉ transientKeys)
    ⟨fun ⟨h, h', h''⟩ => ⟨h, h', h''⟩, fun ⟨h, h', h''⟩ => ⟨h, h', h''⟩⟩

/-- What a field of the catalog is called, if one of its sources is inside of the element. -/
theorem isContentName_of_field {type : ModuleType} {d : ModuleDefinition}
    (hd : ModuleDefinition.of? type = some d) {rule : FieldRule} (hrule : rule ∈ d.fields)
    {source : FieldSource} (hsource : source ∈ rule.sources) (hinside : source.readsTag = false) :
    IsContentName type rule.name := by
  have hall : ∀ d ∈ ModuleDefinition.all, ∀ rule ∈ d.fields,
      (∃ source ∈ rule.sources, source.readsTag = false) → IsContentName d.type rule.name := by
    decide +kernel
  have htype : d.type = type := by simpa using List.find?_some hd
  rw [← htype]
  exact hall d (List.mem_of_find?_eq_some hd) rule hrule ⟨source, hsource, hinside⟩

/-- What an attribute of a component is called. -/
theorem isContentName_of_mem_names {p : ComponentPattern} (hp : p ∈ ComponentPattern.all)
    {key : String} (hkey : key ∈ Component.names p.type) : IsContentName p.type key := by
  have hall : ∀ p ∈ ComponentPattern.all, ∀ key ∈ Component.names p.type,
      IsContentName p.type key := by
    decide
  exact hall p hp key hkey

/-! ### What the style gives -/

theorem find?_positioning (base : Int) (m : StyleMap) :
    (StyleMap.positioning base m).find? "position" =
      ((m.get? "position").filter fun p =>
        p = "relative" || p = "absolute" || p = "fixed" || p = "sticky").map .text := by
  have hothers : "position" ∉ StyleMap.positionKeys.tail := by decide
  unfold StyleMap.positioning
  dsimp only
  rw [List.singleton_append, List.cons_append, Attributes.find?_ofDraft_cons,
    Attributes.find?_ofDraft_of_not_mem hothers, Option.none_or, if_pos rfl]

/-- Only the category of positions gives a position. -/
theorem find?_position_styleAttributes (e : Element) (base : Int) :
    (e.styleAttributes base).find? "position" = e.cssPosition?.map .text := by
  have howned : (StyleMap.positioning, StyleMap.positionKeys) ∈ StyleMap.ownership := by
    simp only [StyleMap.ownership, List.mem_cons, true_or, or_true]
  rw [styleAttributes,
    StyleMap.find?_toAttributes_of_mem_ownership e.style base howned List.mem_cons_self]
  exact find?_positioning base e.style.expand

/-! ### Attributes that are finished -/

/-- Merging the style over attributes and finishing them keeps what has the name of content. -/
theorem keeps_finish {e : Element} {type : ModuleType} {key : String}
    (hname : IsContentName type key) (hover : ¬ e.IsOverridden key) {attrs : Attributes} {v : Json}
    (hv : attrs.find? key = some v) (base : Int) :
    e.Keeps type key v (e.finish base (attrs.merge (e.styleAttributes base))) := by
  have hfinish : (e.finish base (attrs.merge (e.styleAttributes base))).find? key =
      ((e.styleAttributes base).find? key).or (some v) := by
    have hunsuffixed := (e.finishes_finish base (attrs.merge (e.styleAttributes base))).unsuffixed
      key hname.not_transient hover
      fun variant hvariant => StyleMap.ne_append_of_endsAsVariant hname.not_variant hvariant
    rw [hunsuffixed, KeyMap.find?_merge, hv]
  constructor
  · intro hposition
    rw [hfinish]
    by_cases hstyle : key ∈ StyleMap.styleKeys
    · obtain ⟨htype, rfl⟩ := hname.not_style hstyle
      rw [find?_position_styleAttributes, hposition htype rfl, Option.map_none, Option.none_or]
    · rw [find?_styleAttributes_eq_none hstyle, Option.none_or]
  · rintro - rfl p hp
    rw [hfinish, find?_position_styleAttributes, hp, Option.map_some, Option.some_or]

end Element

/-! ### Modules -/

namespace Plan

/-- What is planned as a component has been recognized. -/
theorem IsPlanned.recognize?_eq_some {threshold : ℕ} {scope : Element → Prop} {p : Plan}
    (hp : p.IsPlanned threshold scope) {e : Element} {r : Recognition}
    (ho : p.origin = .recognized e r) : e.recognize? = some r := by
  cases hp with
  | built h =>
    cases h with
    | recognized he hr =>
      obtain ⟨rfl, rfl⟩ := Origin.recognized.inj ho
      exact recognize?_of_accepted? hr
    | _ => cases ho
  | wrapper he htype => cases ho

/-- **Content stays** in every module that is planned. -/
theorem IsPlanned.keeps {threshold : ℕ} {scope : Element → Prop} {p : Plan}
    (hp : p.IsPlanned threshold scope) {e : Element} {key : String} {v : Json}
    (hv : p.origin.Extracts e key v) (hover : ¬ e.IsOverridden key) {type : ModuleType}
    (htype : p.origin.type? = some type) (base : Int) (inside : ℕ) :
    e.Keeps type key v (p.origin.attributes base inside) := by
  generalize ho : p.origin = o at hv htype
  cases hv with
  | @field _ type' d rule source _ hd hrule hsource hinside hvalue =>
    obtain rfl : type' = type := Option.some.inj htype
    have hrow : type' ≠ .row := by
      rintro rfl
      have hall : ∀ d ∈ ModuleDefinition.of? .row, ∀ rule ∈ d.fields, ∀ source ∈ rule.sources,
          source.readsTag = true := by
        decide
      rw [hall d hd rule hrule source hsource] at hinside
      cases hinside
    have hfields : (e.fields type').find? rule.name = some v := by
      rw [Element.fields, KeyMap.find?_merge, Element.find?_overrides_eq_none hover,
        Option.none_or, Element.find?_catalogFields hd hrule, hvalue]
    have hattrs : Origin.typedAttributes e type' base inside =
        (e.fields type').merge (e.styleAttributes base) := by
      rw [Origin.typedAttributes]
      exact if_neg hrow
    have hname := Element.isContentName_of_field hd hrule hsource hinside
    rw [Origin.attributes, hattrs]
    exact Element.keeps_finish hname hover hfields base
  | @component _ r _ _ hvalue =>
    obtain rfl : r.type = type := Option.some.inj htype
    obtain ⟨hcomponent, pattern, hpattern, hpatternType⟩ :=
      Element.exists_pattern_of_recognize? (hp.recognize?_eq_some ho)
    have hname : Element.IsContentName r.type key := by
      have hkey : key ∈ Component.names r.type := by
        refine Component.mem_names (e := e) ?_
        rw [← hcomponent]
        exact KeyMap.mem_keys_iff.mpr ⟨v, hvalue⟩
      rw [← hpatternType] at hkey ⊢
      exact Element.isContentName_of_mem_names hpattern hkey
    rw [Origin.attributes]
    exact Element.keeps_finish hname hover hvalue base

end Plan

/-- A member of a team, with a position there and another one in the style. -/
def Element.placedMember : Element :=
  ⟨⟨.html, "div", [⟨.none, "class", "team-member"⟩, ⟨.none, "style", "position: relative"⟩]⟩,
    [.element ⟨.html, "h3", []⟩ [.text "Ann"],
      .element ⟨.html, "span", [⟨.none, "class", "position"⟩]⟩ [.text "CEO"]]⟩

namespace Conversion

/-- **The style of an element replaces no content that is read, except the position of a team
member.**  Whatever the document, the options, the way of reading and the token are, what is read
for a module from what is inside of its element, and not overridden, is what the module has; only a
team member has the position in its style in place of the position that was read. -/
theorem forall₂_keeps {d : Document} {body : Element} (hbody : d.body? = some body)
    (options : ConversionOptions) (mode : WalkMode) (token : String) :
    ∃ p, (ofDocument options mode d).outcome token = .page p ∧
      List.Forall₂ (fun q m => m.IsModuleOf options.baseFontSize q ∧
          ∀ e key v, q.origin.Extracts e key v → ¬ e.IsOverridden key →
            e.Keeps m.type key v m.attrs)
        (sourcesOf options mode body) (PageModule.preorderAll p.content) := by
  refine ⟨_, outcome_of_body? options mode hbody token, ?_⟩
  refine forall₂_sourcesOf options mode hbody token fun q m hq _ hm => ⟨hm, ?_⟩
  intro e key v hv hover
  rw [hm.attrs_eq]
  exact hq.keeps hv hover hm.type_eq _ _

/-- The name of the member stays. -/
theorem forall₂_keeps_placedMember :
    (Document.ofBody [.placedMember]).body? = some (.plain "body" [.placedMember]) ∧
      ¬ Element.placedMember.IsOverridden "name" ∧
      ∃ p m, (ofDocument {} .annotated (.ofBody [.placedMember])).outcome "0123456789abc" =
          .page p ∧ m ∈ PageModule.preorderAll p.content ∧
        m.attrs.find? "name" = some (.text "Ann") := by
  have hbody := Document.body?_ofBody [.placedMember]
  have hover : ¬ Element.placedMember.IsOverridden "name" := by
    unfold Element.IsOverridden
    decide +kernel
  obtain ⟨p, hpage, hall⟩ := forall₂_keeps hbody {} .annotated "0123456789abc"
  have htype : Element.placedMember.type? = some .teamMember := by decide +kernel
  obtain ⟨notes, hplan⟩ := Plan.ofMarked_of_type? 50 htype
  have hleaf : Plan.typedChildren 50 .placedMember .teamMember = [] :=
    Plan.typedChildren_of_leaf 50 (by decide) rfl _
  rw [sourcesOf, plansOf, Plan.ofMarkedBody, Element.contentChildren_plain (by decide +kernel),
    List.map_singleton, hplan, Plan.ofTyped, hleaf] at hall
  obtain ⟨m, rest, hm, -, hcontent⟩ := List.forall₂_cons_left_iff.mp hall
  have hread : ((field "name" .text [.selected "h1,h2,h3,h4,h5,h6,.name"]).value?
      .placedMember).bind Json.text? = some "Ann" := by
    decide +kernel
  obtain ⟨v, hv, htext⟩ := Option.bind_eq_some_iff.mp hread
  have hann : v = .text "Ann" := by
    cases v <;> simp_all [Json.text?]
  rw [hann] at hv
  obtain ⟨d, hd, hrule⟩ : ∃ d, ModuleDefinition.of? .teamMember = some d ∧
      field "name" .text [.selected "h1,h2,h3,h4,h5,h6,.name"] ∈ d.fields :=
    ⟨_, rfl, List.mem_cons_self⟩
  have hextracts : Origin.Extracts (.typed .placedMember .teamMember) .placedMember "name"
      (.text "Ann") :=
    .field hd hrule List.mem_cons_self rfl hv
  have hkeeps := hm.2 .placedMember "name" (.text "Ann") hextracts hover
  exact ⟨hbody, hover, p, m, hpage, hcontent ▸ List.mem_cons_self,
    hkeeps.kept fun _ hname => absurd hname (by decide)⟩

/-- The position of the member in the team gives way to that in the style. -/
theorem not_find?_position_placedMember :
    ¬ ∀ (e : Element) r key v base, e.recognize? = some r →
      r.component.attrs.find? key = some v → ¬ e.IsOverridden key →
      (Origin.attributes base 0 (.recognized e r)).find? key = some v := by
  intro h
  have hread : (Element.placedMember.recognize?.map fun r =>
      (r.component.attrs.find? "position").bind Json.text?) = some (some "CEO") := by
    decide +kernel
  obtain ⟨r, hr, htext⟩ := Option.map_eq_some_iff.mp hread
  obtain ⟨v, hv, hceo⟩ := Option.bind_eq_some_iff.mp htext
  have hover : ¬ Element.placedMember.IsOverridden "position" := by
    unfold Element.IsOverridden
    decide +kernel
  have hname : Element.IsContentName .teamMember "position" := by decide +kernel
  have hcss : Element.placedMember.cssPosition? = some "relative" := by decide +kernel
  have hstyle := (Element.keeps_finish hname hover hv 16).replaced rfl rfl "relative" hcss
  have hsame := h .placedMember r "position" v 16 hr hv hover
  have hrelative : v = .text "relative" := Option.some.inj (hsame.symm.trans hstyle)
  rw [hrelative] at hceo
  exact absurd hceo (by decide)

end Conversion

end PageModules
