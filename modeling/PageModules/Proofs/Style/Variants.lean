import PageModules.Markup.Styling

/-!
# The variants of a style

An element has a style text for tablets, for phones and for hovering, each in an attribute of its
own.  The style of a variant gives the keys that it gives as a plain style, with the suffix of the
variant behind them (`StyleMap.find?_toAttributes_eq_some_iff`).  No key ends in two suffixes, so
none of the variants hides another (`Element.find?_variantAttributes_eq_some_iff`).
-/

namespace PageModules

namespace StyleMap

/-! ### Suffixes -/

theorem find?_withSuffix (attrs : Attributes) (suffix key : String) :
    (withSuffix attrs suffix).find? (key ++ suffix) = attrs.find? key := by
  have hinjective : Function.Injective fun s : String => s ++ suffix :=
    fun s t h => (String.append_left_inj suffix).mp h
  rw [withSuffix, KeyMap.find?_ofList, ← List.map_reverse, Entries.lookup_map hinjective,
    attrs.ordered.lookup_reverse]
  rfl

theorem exists_eq_append_of_find?_withSuffix {attrs : Attributes} {suffix key : String} {v : Json}
    (h : (withSuffix attrs suffix).find? key = some v) : ∃ k, key = k ++ suffix := by
  rw [withSuffix, KeyMap.find?_ofList] at h
  have hmem := List.mem_reverse.mp (Entries.mem_of_lookup_eq_some h)
  obtain ⟨entry, -, hentry⟩ := List.mem_map.mp hmem
  exact ⟨entry.1, (congrArg Prod.fst hentry).symm⟩

/-- With a suffix, a style gives the keys that it gives without one, with the suffix behind them. -/
theorem find?_toAttributes_eq_some_iff (m : StyleMap) (base : Int) {suffix : String}
    (hsuffix : suffix ≠ "") (key : String) (v : Json) :
    (m.toAttributes base suffix).find? key = some v ↔
      ∃ k, key = k ++ suffix ∧ (m.toAttributes base "").find? k = some v := by
  have hwith : m.toAttributes base suffix = withSuffix (m.toAttributes base "") suffix := by
    rw [toAttributes, if_neg hsuffix, toAttributes, if_pos rfl]
  rw [hwith]
  constructor
  · intro h
    obtain ⟨k, rfl⟩ := exists_eq_append_of_find?_withSuffix h
    rw [find?_withSuffix] at h
    exact ⟨k, rfl, h⟩
  · rintro ⟨k, rfl, h⟩
    rw [find?_withSuffix]
    exact h

end StyleMap

namespace Element

open StyleMap

/-! ### Variants -/

/-- The variants of a style: the attribute that holds the style text, and what the keys of the
variant end in. -/
def styleVariants : List (String × String) :=
  [(tabletStyleName, tabletSuffix), (phoneStyleName, phoneSuffix), (hoverStyleName, hoverSuffix)]

/-- The style text of a variant gives a key the value: without the suffix of the variant it is a key
to which the style text, as a plain style, gives the value. -/
def VariantGives (e : Element) (base : Int) (key : String) (v : Json) : Prop :=
  ∃ variant ∈ styleVariants, ∃ text k, e.filledAttr? variant.1 = some text ∧
    key = k ++ variant.2 ∧ ((StyleMap.ofText text).toAttributes base "").find? k = some v

/-- What one variant gives a key. -/
theorem find?_variant_eq_some_iff (e : Element) (base : Int) {name suffix : String}
    (hsuffix : suffix ≠ "") (key : String) (v : Json) :
    (StyleMap.variantAttributes (e.attr? name) base suffix).find? key = some v ↔
      ∃ text k, e.filledAttr? name = some text ∧ key = k ++ suffix ∧
        ((StyleMap.ofText text).toAttributes base "").find? k = some v := by
  unfold StyleMap.variantAttributes filledAttr?
  cases e.attr? name with
  | none => simp
  | some text =>
    simp only [Option.filter_some]
    cases Text.isBlankText text with
    | true => simp
    | false => simp [find?_toAttributes_eq_some_iff _ _ hsuffix]

/-- A variant gives nothing to a key that does not end in its suffix. -/
theorem find?_variant_eq_none (e : Element) (base : Int) {name suffix key : String}
    (hsuffix : suffix ≠ "") (hkey : ∀ k, key ≠ k ++ suffix) :
    (StyleMap.variantAttributes (e.attr? name) base suffix).find? key = none := by
  rw [Option.eq_none_iff_forall_ne_some]
  intro v hv
  obtain ⟨_, k, _, rfl, _⟩ := (find?_variant_eq_some_iff e base hsuffix key v).mp hv
  exact hkey k rfl

/-- Texts with different last characters are different. -/
theorem append_ne_append {s s' : String} {c c' : Char} (hs : s.toList.getLast? = some c)
    (hs' : s'.toList.getLast? = some c') (hne : c ≠ c') (k k' : String) : k ++ s ≠ k' ++ s' := by
  intro h
  have hlast := congrArg (fun t => t.toList.getLast?) h
  simp only [String.toList_append, List.getLast?_append, hs, hs', Option.some_or] at hlast
  exact hne (Option.some.inj hlast)

/-- **No variant hides another**: the variants together give a key a value exactly if one of them
does. -/
theorem find?_variantAttributes_eq_some_iff (e : Element) (base : Int) (key : String) (v : Json) :
    (e.variantAttributes base).find? key = some v ↔ e.VariantGives base key v := by
  have htablet : tabletSuffix ≠ "" := by decide
  have hphone : phoneSuffix ≠ "" := by decide
  have hhover : hoverSuffix ≠ "" := by decide
  have htabletPhone (k k' : String) : k ++ tabletSuffix ≠ k' ++ phoneSuffix :=
    append_ne_append rfl rfl (by decide) k k'
  have htabletHover (k k' : String) : k ++ tabletSuffix ≠ k' ++ hoverSuffix :=
    append_ne_append rfl rfl (by decide) k k'
  have hphoneHover (k k' : String) : k ++ phoneSuffix ≠ k' ++ hoverSuffix :=
    append_ne_append rfl rfl (by decide) k k'
  rw [Element.variantAttributes, responsiveAttributes, hoverAttributes, KeyMap.find?_merge,
    KeyMap.find?_merge]
  constructor
  · intro h
    rcases Option.or_eq_some_iff.mp h with h | ⟨-, h⟩
    · exact ⟨(hoverStyleName, hoverSuffix), by simp [styleVariants],
        (find?_variant_eq_some_iff e base hhover key v).mp h⟩
    rcases Option.or_eq_some_iff.mp h with h | ⟨-, h⟩
    · exact ⟨(phoneStyleName, phoneSuffix), by simp [styleVariants],
        (find?_variant_eq_some_iff e base hphone key v).mp h⟩
    · exact ⟨(tabletStyleName, tabletSuffix), by simp [styleVariants],
        (find?_variant_eq_some_iff e base htablet key v).mp h⟩
  · rintro ⟨variant, hvariant, text, k, htext, rfl, hk⟩
    simp only [styleVariants, List.mem_cons, List.not_mem_nil, or_false] at hvariant
    rcases hvariant with rfl | rfl | rfl
    · rw [find?_variant_eq_none e base hhover (htabletHover k),
        find?_variant_eq_none e base hphone (htabletPhone k), Option.none_or, Option.none_or]
      exact (find?_variant_eq_some_iff e base htablet _ v).mpr ⟨text, k, htext, rfl, hk⟩
    · rw [find?_variant_eq_none e base hhover (hphoneHover k), Option.none_or,
        (find?_variant_eq_some_iff e base hphone _ v).mpr ⟨text, k, htext, rfl, hk⟩, Option.some_or]
    · rw [(find?_variant_eq_some_iff e base hhover _ v).mpr ⟨text, k, htext, rfl, hk⟩,
        Option.some_or]

/-- The variants give nothing to a key that ends in none of their suffixes. -/
theorem not_variantGives (e : Element) (base : Int) {key : String}
    (hkey : ∀ variant ∈ styleVariants, ∀ k, key ≠ k ++ variant.2) (v : Json) :
    ¬ e.VariantGives base key v := by
  rintro ⟨variant, hvariant, _, k, _, hk, _⟩
  exact hkey variant hvariant k hk

end Element

end PageModules
