import PageModules.Proofs.Style.Variants
import PageModules.Proofs.Walk.Sources

/-!
# What decides an attribute

The attributes of a module that is made of an element are finished by the element
(`Element.Finishes`): a key that an author override names has the value of the override, any other
one what a variant of the style gives it, and the rest stays as it was.  Transient keys are gone.

All modules of a page for which the element has to finish the attributes (`Origin.unfinished?`) are
finished in this way (`Conversion.forall₂_finishes`).
-/

namespace PageModules

namespace Element

/-! ### Author overrides -/

/-- An attribute of the element overrides the key. -/
def IsOverridden (e : Element) (key : String) : Prop :=
  ∃ a ∈ e.tag.attrs, overrideKey? a.name = some key

/-- The value of an override is that of an attribute that overrides the key. -/
theorem exists_of_find?_overrides {e : Element} {key : String} {v : Json}
    (h : e.overrides.find? key = some v) :
    ∃ a ∈ e.tag.attrs, overrideKey? a.name = some key ∧ v = attributeValue a.value := by
  rw [overrides, KeyMap.find?_ofList] at h
  have hmem := List.mem_reverse.mp (Entries.mem_of_lookup_eq_some h)
  obtain ⟨a, ha, hentry⟩ := List.mem_filterMap.mp hmem
  obtain ⟨k, hk, hpair⟩ := Option.map_eq_some_iff.mp hentry
  obtain ⟨rfl, rfl⟩ := Prod.mk.inj hpair
  exact ⟨a, ha, hk, rfl⟩

theorem find?_overrides_eq_none {e : Element} {key : String} (h : ¬ e.IsOverridden key) :
    e.overrides.find? key = none := by
  rw [Option.eq_none_iff_forall_ne_some]
  intro v hv
  obtain ⟨a, ha, hkey, -⟩ := exists_of_find?_overrides hv
  exact h ⟨a, ha, hkey⟩

/-- If only one attribute overrides the key, its value counts. -/
theorem find?_overrides_of_unique {e : Element} {key : String} {a : Attr} (ha : a ∈ e.tag.attrs)
    (hkey : overrideKey? a.name = some key)
    (hunique : ∀ b ∈ e.tag.attrs, overrideKey? b.name = some key → b = a) :
    e.overrides.find? key = some (attributeValue a.value) := by
  have hmem : (key, attributeValue a.value) ∈ e.tag.attrs.filterMap fun a =>
      (overrideKey? a.name).map fun k => (k, attributeValue a.value) :=
    List.mem_filterMap.mpr ⟨a, ha, by rw [hkey, Option.map_some]⟩
  obtain ⟨v, hv⟩ := Entries.exists_lookup_of_mem (List.mem_reverse.mpr hmem)
  have hv : e.overrides.find? key = some v := by
    rw [overrides, KeyMap.find?_ofList]
    exact hv
  obtain ⟨b, hb, hbkey, rfl⟩ := exists_of_find?_overrides hv
  rw [hv, hunique b hb hbkey]

/-! ### Finishing -/

/-- What an element makes of attributes when it finishes them. -/
structure Finishes (e : Element) (base : Int) (before after : Attributes) : Prop where
  /-- Transient keys do not stay. -/
  transient : ∀ key ∈ transientKeys, after.find? key = none
  /-- An author override wins over all else, if only one attribute overrides the key. -/
  override : ∀ key ∉ transientKeys, ∀ a ∈ e.tag.attrs, overrideKey? a.name = some key →
    (∀ b ∈ e.tag.attrs, overrideKey? b.name = some key → b = a) →
    after.find? key = some (attributeValue a.value)
  /-- Without one, a variant of the style wins over what stood there. -/
  variant : ∀ key ∉ transientKeys, ¬ e.IsOverridden key → ∀ v, e.VariantGives base key v →
    after.find? key = some v
  /-- What neither of them names stays as it was. -/
  kept : ∀ key ∉ transientKeys, ¬ e.IsOverridden key → (∀ v, ¬ e.VariantGives base key v) →
    after.find? key = before.find? key
  /-- The variants change no key but those that end in one of their suffixes. -/
  unsuffixed : ∀ key ∉ transientKeys, ¬ e.IsOverridden key →
    (∀ variant ∈ styleVariants, ∀ k, key ≠ k ++ variant.2) → after.find? key = before.find? key

theorem find?_finish_of_mem {key : String} (hkey : key ∈ transientKeys) (e : Element) (base : Int)
    (attrs : Attributes) : (e.finish base attrs).find? key = none := by
  rw [finish, KeyMap.find?_filter, Option.filter_eq_none_iff]
  intro _ _
  simpa using hkey

/-- Overrides come first, then the variants of the style, then the attributes before. -/
theorem find?_finish_of_not_mem {key : String} (hkey : key ∉ transientKeys) (e : Element)
    (base : Int) (attrs : Attributes) :
    (e.finish base attrs).find? key =
      (e.overrides.find? key).or (((e.variantAttributes base).find? key).or (attrs.find? key)) := by
  have hkeep (o : Option Json) : (o.filter fun _ => !transientKeys.contains key) = o := by
    cases o with
    | none => rfl
    | some v => exact if_pos (by simpa using hkey)
  rw [finish, KeyMap.find?_filter, hkeep, KeyMap.find?_merge, KeyMap.find?_merge]

/-- **An element finishes attributes in a fixed order of precedence.** -/
theorem finishes_finish (e : Element) (base : Int) (attrs : Attributes) :
    e.Finishes base attrs (e.finish base attrs) := by
  have kept (key : String) (hkey : key ∉ transientKeys) (hover : ¬ e.IsOverridden key)
      (hvariant : ∀ v, ¬ e.VariantGives base key v) :
      (e.finish base attrs).find? key = attrs.find? key := by
    have hnone : (e.variantAttributes base).find? key = none := by
      rw [Option.eq_none_iff_forall_ne_some]
      exact fun v hv => hvariant v ((find?_variantAttributes_eq_some_iff e base key v).mp hv)
    rw [find?_finish_of_not_mem hkey, find?_overrides_eq_none hover, hnone, Option.none_or,
      Option.none_or]
  refine { transient := ?_, override := ?_, variant := ?_, kept := kept, unsuffixed := ?_ }
  · exact fun key hkey => find?_finish_of_mem hkey e base attrs
  · intro key hkey a ha hname hunique
    rw [find?_finish_of_not_mem hkey, find?_overrides_of_unique ha hname hunique, Option.some_or]
  · intro key hkey hover v hv
    rw [find?_finish_of_not_mem hkey, find?_overrides_eq_none hover,
      (find?_variantAttributes_eq_some_iff e base key v).mpr hv, Option.none_or, Option.some_or]
  · exact fun key hkey hover hsuffix => kept key hkey hover (not_variantGives e base hsuffix)

end Element

/-! ### Modules -/

namespace Origin

/-- The element that finishes the attributes of a module, and the attributes before that. -/
def unfinished? (base : Int) (inside : Nat) : Origin → Option (Element × Attributes)
  | typed e type => some (e, typedAttributes e type base inside)
  | item e type => some (e, (e.fillItem type (e.fields type)).merge (e.styleAttributes base))
  | recognized e r => some (e, r.component.attrs.merge (e.styleAttributes base))
  | text e =>
    some (e, (Attributes.ofDraft [("content", some (.text e.innerMarkup))]).merge
      (e.styleAttributes base))
  | shapedSection e =>
    some (e, (e.styleAttributes base).merge (Attributes.ofDraft (sectionSettings e)))
  | shapedRow e => some (e, e.withDivision inside ((e.styleAttributes base).merge e.rowLayout))
  | shapedColumn e => some (e, e.styleAttributes base)
  | _ => none

theorem attributes_of_unfinished? {base : Int} {inside : Nat} {o : Origin} {e : Element}
    {before : Attributes} (h : o.unfinished? base inside = some (e, before)) :
    o.attributes base inside = e.finish base before := by
  cases o <;> simp only [unfinished?, Option.some.injEq, Prod.mk.injEq, reduceCtorEq] at h <;>
    obtain ⟨rfl, rfl⟩ := h <;> rfl

end Origin

/-- A paragraph whose contents are overridden. -/
def Element.overridden : Element :=
  ⟨⟨.html, "p", [⟨.none, "data-jtb-attr-content", "two"⟩]⟩, [.text "one"]⟩

namespace Conversion

/-- **One precedence for all modules**: whatever the document, the options, the way of reading and
the token are, a module whose attributes an element finishes has the values of the author overrides
of the element, then those of the variants of its style, and else those that it had before. -/
theorem forall₂_finishes {d : Document} {body : Element} (hbody : d.body? = some body)
    (options : ConversionOptions) (mode : WalkMode) (token : String) :
    ∃ p, (ofDocument options mode d).outcome token = .page p ∧
      List.Forall₂ (fun q m => m.IsModuleOf options.baseFontSize q ∧
          ∀ e before, q.origin.unfinished? options.baseFontSize m.children.length =
            some (e, before) → e.Finishes options.baseFontSize before m.attrs)
        (sourcesOf options mode body) (PageModule.preorderAll p.content) := by
  refine ⟨_, outcome_of_body? options mode hbody token, ?_⟩
  refine (forall₂_isModuleOf options mode token body).imp fun q m hm => ⟨hm, ?_⟩
  intro e before h
  rw [hm.attrs_eq, Origin.attributes_of_unfinished? h]
  exact e.finishes_finish _ before

/-- The contents of a paragraph are overridden. -/
theorem forall₂_finishes_overridden :
    (Document.ofBody [.overridden]).body? = some (.plain "body" [.overridden]) ∧
      ∃ p m, (ofDocument {} .annotated (.ofBody [.overridden])).outcome "0123456789abc" = .page p ∧
        m ∈ PageModule.preorderAll p.content ∧
        m.attrs.find? "content" = some (attributeValue "two") := by
  have hbody := Document.body?_ofBody [.overridden]
  obtain ⟨p, hpage, hall⟩ := forall₂_finishes hbody {} .annotated "0123456789abc"
  have htype : Element.overridden.type? = some .text := by decide +kernel
  obtain ⟨notes, hplan⟩ := Plan.ofMarked_of_type? 50 htype
  have hleaf : Plan.typedChildren 50 .overridden .text = [] :=
    Plan.typedChildren_of_leaf 50 (by decide) rfl _
  rw [sourcesOf, plansOf, Plan.ofMarkedBody, Element.contentChildren_plain (by decide +kernel),
    List.map_singleton, hplan, Plan.ofTyped, hleaf] at hall
  obtain ⟨m, rest, hm, -, hcontent⟩ := List.forall₂_cons_left_iff.mp hall
  have hfinishes := hm.2 .overridden _ rfl
  refine ⟨hbody, p, m, hpage, hcontent ▸ List.mem_cons_self, ?_⟩
  exact hfinishes.override "content" (by decide) ⟨.none, "data-jtb-attr-content", "two"⟩
    (by decide) (by decide) (by decide)

end Conversion

end PageModules
