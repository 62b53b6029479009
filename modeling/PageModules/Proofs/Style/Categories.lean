import Mathlib.Data.List.Pairwise
import PageModules.Proofs.Json.Disjoint
import PageModules.Proofs.Style.Variants

/-!
# The categories own different attributes

The conversion of a style merges the attributes of eleven categories.  `StyleMap.ownership` lists
the names that each category can give (`StyleMap.keys_subset_of_mem_ownership`).  No name stands in
the lists of two categories, and none ends as the names of a variant do.  So the merge loses
nothing, and the style of an element and its three variants never share a name
(`StyleMap.toAttributes_lossless`).
-/

namespace PageModules

namespace StyleMap

open Style

/-! ### The names that a category can give -/

/-- The names for what is behind an element: a gradient or a picture. -/
def imageKeys : List String :=
  ["background_type", "background_gradient_type", "background_gradient_direction",
    "background_gradient_stops", "background_image"]

/-- The names for a shadow: its style and its parts. -/
def shadowKeys (name : String) (parts : List String) : List String :=
  (underscored name ++ "_style") :: parts.map fun part => underscored name ++ "_" ++ part

/-- The names for the place of an element: its kind, its sides and its layer. -/
def positionKeys : List String :=
  ["position"] ++ (Shorthand.sides.map fun side => "position_" ++ side) ++ ["z_index"]

/-- The categories, each with the names that it can give. -/
def ownership : List ((Int → StyleMap → Attributes) × List String) :=
  [(background, ["background_type", "background_color"] ++ imageKeys ++
      ["background_size", "background_position", "background_repeat"] ++
      ["parallax", "background_image_overlay"]),
    (spacing, (["margin", "padding"].flatMap fun part =>
      Shorthand.sides.map fun side => part ++ "_" ++ side) ++ ["gap", "row_gap", "column_gap"]),
    (border, ["border_width", "border_style", "border_color", "border_radius"]),
    (boxShadow,
      shadowKeys "box-shadow" ["horizontal", "vertical", "blur", "spread", "color", "inset"]),
    (typography, ["font_family", "font_size", "font_weight", "line_height", "letter_spacing",
        "word_spacing", "font_style", "text_transform", "text_decoration", "text_color",
        "text_align"] ++
      shadowKeys "text-shadow" ["horizontal", "vertical", "blur", "color"]),
    (transformation, (["scale", "scale-x", "scale-y", "rotate", "skew-x", "skew-y", "translate-x",
      "translate-y"].map fun part => "transform_" ++ underscored part) ++ ["transform_origin"]),
    (filters, ["hue-rotate", "saturate", "brightness", "contrast", "invert", "sepia", "blur",
      "grayscale", "opacity"].map fun name => "filter_" ++ underscored name),
    (sizing, ["width", "max-width", "min-width", "height", "max-height", "min-height"].map
      underscored ++ ["overflow", "overflow_x", "overflow_y"]),
    (positioning, positionKeys),
    (animation, ["animation_style", "animation_direction", "animation_duration",
      "animation_delay", "animation_intensity", "css_transition"]),
    (appearance, ["opacity", "visibility", "display", "cursor", "object_fit", "object_position",
      "vertical_align"])]

theorem map_fst_ownership : ownership.map Prod.fst = categories := rfl

theorem mem_shadowKeys {m : StyleMap} {name : String} {parts : List String} {k : String}
    (h : k ∈ (m.shadowDraft name parts).map Prod.fst) : k ∈ shadowKeys name parts := by
  unfold shadowDraft at h
  split at h
  case h_1 => cases h
  case h_2 =>
    rw [List.map_singleton, List.mem_singleton] at h
    rw [h]
    exact List.mem_cons_self
  case h_3 =>
    rw [List.map_cons, List.map_map] at h
    exact h

theorem mem_imageKeys {image k : String} (h : k ∈ (imageDraft image).map Prod.fst) :
    k ∈ imageKeys := by
  unfold imageDraft at h
  split at h
  case h_1 => exact List.mem_append_left ["background_image"] h
  case h_2 =>
    split at h
    case h_1 =>
      have hsubset : ["background_type", "background_image"] ⊆ imageKeys := by decide
      exact hsubset h
    case h_2 => cases h

/-- **A category gives only names that it owns.** -/
theorem keys_subset_of_mem_ownership {owned : (Int → StyleMap → Attributes) × List String}
    (h : owned ∈ ownership) (base : Int) (m : StyleMap) : (owned.1 base m).keys ⊆ owned.2 := by
  intro k hk
  simp only [ownership, List.mem_cons, List.not_mem_nil, or_false] at h
  rcases h with rfl | rfl | rfl | rfl | rfl | rfl | rfl | rfl | rfl | rfl | rfl
  case inl =>
    -- colour and image depend on the style, the other names do not
    have hdraft := Attributes.mem_of_mem_keys_ofDraft hk
    simp only [List.map_append, List.mem_append] at hdraft ⊢
    refine hdraft.imp_left (Or.imp_left (Or.imp (fun hcolor => ?_) (fun himage => ?_)))
    · split at hcolor
      case h_1 =>
        split at hcolor
        · cases hcolor
        · exact hcolor
      case h_2 => cases hcolor
    · cases hget : m.get? "background-image" with
      | none =>
        rw [hget] at himage
        cases himage
      | some image =>
        rw [hget] at himage
        exact mem_imageKeys himage
  case inr.inr.inr.inl => exact mem_shadowKeys (Attributes.mem_of_mem_keys_ofDraft hk)
  case inr.inr.inr.inr.inl =>
    have hdraft := Attributes.mem_of_mem_keys_ofDraft hk
    rw [List.map_append, List.mem_append] at hdraft
    rcases hdraft with htexts | hshadow
    · exact List.mem_append_left _ htexts
    · exact List.mem_append_right _ (mem_shadowKeys hshadow)
  -- the draft of each other category has its names in the order of the list
  all_goals exact Attributes.mem_of_mem_keys_ofDraft hk

/-! ### No name in two categories -/

/-- The attributes of each category. -/
def categoryAttributes (m : StyleMap) (base : Int) : List Attributes :=
  categories.map fun category => category base m.expand

theorem pairwise_ownership :
    ownership.Pairwise fun owned owned' => ∀ k ∈ owned.2, k ∉ owned'.2 := by
  decide +kernel

/-- **No two categories give the same name.** -/
theorem pairwise_disjoint_categoryAttributes (m : StyleMap) (base : Int) :
    (m.categoryAttributes base).Pairwise KeyMap.Disjoint := by
  rw [categoryAttributes, ← map_fst_ownership, List.map_map, List.pairwise_map]
  refine pairwise_ownership.imp_of_mem fun {owned owned'} h h' hdisjoint k hk hk' => ?_
  exact hdisjoint k (keys_subset_of_mem_ownership h base m.expand hk)
    (keys_subset_of_mem_ownership h' base m.expand hk')

theorem toAttributes_eq_foldl_merge (m : StyleMap) (base : Int) :
    m.toAttributes base "" = (m.categoryAttributes base).foldl KeyMap.merge KeyMap.empty := by
  rw [toAttributes, if_pos rfl, categoryAttributes, List.foldl_map]

theorem find?_toAttributes_eq_some_iff_category (m : StyleMap) (base : Int) (k : String)
    (v : Json) :
    (m.toAttributes base "").find? k = some v ↔
      ∃ attrs ∈ m.categoryAttributes base, attrs.find? k = some v := by
  rw [toAttributes_eq_foldl_merge]
  exact KeyMap.find?_foldl_merge_eq_some_iff (m.pairwise_disjoint_categoryAttributes base)

/-- A name has what the category that owns it gives. -/
theorem find?_toAttributes_of_mem_ownership (m : StyleMap) (base : Int)
    {owned : (Int → StyleMap → Attributes) × List String} (h : owned ∈ ownership) {k : String}
    (hk : k ∈ owned.2) :
    (m.toAttributes base "").find? k = (owned.1 base m.expand).find? k := by
  refine Option.ext fun v => ?_
  rw [find?_toAttributes_eq_some_iff_category, categoryAttributes, ← map_fst_ownership,
    List.map_map]
  constructor
  · rintro ⟨attrs, hattrs, hv⟩
    obtain ⟨owned', h', rfl⟩ := List.mem_map.mp hattrs
    have hk' := keys_subset_of_mem_ownership h' base m.expand (KeyMap.mem_keys_iff.mpr ⟨v, hv⟩)
    have heq : owned = owned' := by
      by_contra hne
      have hsymm : Std.Symm fun owned owned' : (Int → StyleMap → Attributes) × List String =>
          ∀ k ∈ owned.2, k ∉ owned'.2 :=
        ⟨fun _ _ hdisjoint k hk hk' => hdisjoint k hk' hk⟩
      exact pairwise_ownership.forall h h' hne k hk hk'
    rw [heq]
    exact hv
  · intro hv
    exact ⟨_, List.mem_map_of_mem h, hv⟩

/-! ### Suffixes -/

theorem length_withSuffix (attrs : Attributes) (suffix : String) :
    (withSuffix attrs suffix).entries.length = attrs.entries.length := by
  have hinjective : Function.Injective fun s : String => s ++ suffix :=
    fun s t h => (String.append_left_inj suffix).mp h
  have hnodup : ((attrs.entries.map fun e => (e.1 ++ suffix, e.2)).map Prod.fst).Nodup := by
    have hkeys := attrs.nodup_keys.map hinjective
    rw [KeyMap.keys, List.map_map] at hkeys
    rw [List.map_map]
    exact hkeys
  rw [withSuffix, KeyMap.length_ofList hnodup, List.length_map]

theorem length_toAttributes (m : StyleMap) (base : Int) (suffix : String) :
    (m.toAttributes base suffix).entries.length = (m.toAttributes base "").entries.length := by
  by_cases hsuffix : suffix = ""
  · rw [hsuffix]
  · rw [toAttributes, if_neg hsuffix, length_withSuffix, toAttributes, if_pos rfl]

/-- The names that the categories can give. -/
def styleKeys : List String := ownership.flatMap Prod.snd

theorem mem_styleKeys {m : StyleMap} {base : Int} {k : String}
    (h : k ∈ (m.toAttributes base "").keys) : k ∈ styleKeys := by
  obtain ⟨v, hv⟩ := KeyMap.mem_keys_iff.mp h
  obtain ⟨attrs, hattrs, hv⟩ := (find?_toAttributes_eq_some_iff_category m base k v).mp hv
  rw [categoryAttributes, ← map_fst_ownership, List.map_map, List.mem_map] at hattrs
  obtain ⟨owned, howned, rfl⟩ := hattrs
  have hk := keys_subset_of_mem_ownership howned base m.expand (KeyMap.mem_keys_iff.mpr ⟨v, hv⟩)
  exact List.mem_flatMap.mpr ⟨owned, howned, hk⟩

/-- Whether a name ends as the names of a variant do.  It looks at bytes, since the characters of a
text take the kernel long. -/
def endsAsVariant (k : String) : Bool :=
  Element.styleVariants.any fun variant =>
    variant.2.toByteArray.data.toList.isSuffixOf k.toByteArray.data.toList

theorem ne_append_of_endsAsVariant {k : String} (hk : endsAsVariant k = false)
    {variant : String × String} (hvariant : variant ∈ Element.styleVariants) (start : String) :
    k ≠ start ++ variant.2 := by
  rintro rfl
  have hends : endsAsVariant (start ++ variant.2) = true := by
    refine List.any_eq_true.mpr ⟨variant, hvariant, ?_⟩
    rw [List.isSuffixOf_iff_suffix, String.toByteArray_append, ByteArray.data_append,
      Array.toList_append]
    exact List.suffix_append _ _
  rw [hk] at hends
  cases hends

/-- No name that a category can give ends as the names of a variant do. -/
theorem endsAsVariant_of_mem_styleKeys : ∀ k ∈ styleKeys, endsAsVariant k = false := by
  decide +kernel

end StyleMap

/-! ### The layers of a style -/

namespace Element

/-- What the style of an element gives, and what each of its variants gives. -/
def styleLayers (e : Element) (base : Int) : List Attributes :=
  e.styleAttributes base ::
    styleVariants.map fun variant => StyleMap.variantAttributes (e.attr? variant.1) base variant.2

theorem find?_styleAttributes_eq_none {key : String} (hkey : key ∉ StyleMap.styleKeys)
    (e : Element) (base : Int) : (e.styleAttributes base).find? key = none := by
  rw [Option.eq_none_iff_forall_ne_some]
  intro v hv
  exact hkey (StyleMap.mem_styleKeys (KeyMap.mem_keys_iff.mpr ⟨v, hv⟩))

theorem pairwise_styleVariants :
    styleVariants.Pairwise fun variant variant' => ∀ k k', k ++ variant.2 ≠ k' ++ variant'.2 := by
  simp only [styleVariants, List.pairwise_cons, List.forall_mem_cons, List.not_mem_nil,
    IsEmpty.forall_iff, implies_true, List.Pairwise.nil, and_true]
  exact ⟨⟨append_ne_append rfl rfl (by decide), append_ne_append rfl rfl (by decide)⟩,
    append_ne_append rfl rfl (by decide)⟩

theorem exists_eq_append_of_mem_keys {e : Element} {base : Int} {variant : String × String}
    (hvariant : variant ∈ styleVariants) {key : String}
    (h : key ∈ (StyleMap.variantAttributes (e.attr? variant.1) base variant.2).keys) :
    ∃ k, key = k ++ variant.2 := by
  have hsuffix : variant.2 ≠ "" := by
    have hall : ∀ variant ∈ styleVariants, variant.2 ≠ "" := by decide
    exact hall variant hvariant
  obtain ⟨v, hv⟩ := KeyMap.mem_keys_iff.mp h
  obtain ⟨_, k, _, hk, _⟩ := (find?_variant_eq_some_iff e base hsuffix key v).mp hv
  exact ⟨k, hk⟩

/-- **The style of an element and its variants never share a name.** -/
theorem pairwise_disjoint_styleLayers (e : Element) (base : Int) :
    (e.styleLayers base).Pairwise KeyMap.Disjoint := by
  rw [styleLayers, List.pairwise_cons, List.pairwise_map]
  constructor
  · intro layer hlayer key hkey hkey'
    obtain ⟨variant, hvariant, rfl⟩ := List.mem_map.mp hlayer
    obtain ⟨k, hk⟩ := exists_eq_append_of_mem_keys hvariant hkey'
    have hends := StyleMap.endsAsVariant_of_mem_styleKeys key (StyleMap.mem_styleKeys hkey)
    exact StyleMap.ne_append_of_endsAsVariant hends hvariant k hk
  · refine pairwise_styleVariants.imp_of_mem fun h h' hne key hkey hkey' => ?_
    obtain ⟨k, hk⟩ := exists_eq_append_of_mem_keys h hkey
    obtain ⟨k', hk'⟩ := exists_eq_append_of_mem_keys h' hkey'
    exact hne k k' (hk.symm.trans hk')

end Element

/-! ### The conversion -/

/-- **The conversion of a style loses nothing.**  The attributes of the categories have no name in
common, so there are as many attributes as in all categories together, and under each name, before
the suffix, stands the value of its category.  Without a suffix no name ends as the names of a
variant do, so the style of an element and its variants share no name either. -/
theorem StyleMap.toAttributes_lossless (m : StyleMap) (base : Int) (suffix : String)
    (e : Element) :
    (m.categoryAttributes base).Pairwise KeyMap.Disjoint ∧
    (m.toAttributes base suffix).entries.length =
      ((m.categoryAttributes base).map (·.entries.length)).sum ∧
    (∀ key v, (m.toAttributes base suffix).find? key = some v ↔
      ∃ attrs ∈ m.categoryAttributes base, ∃ k, key = k ++ suffix ∧ attrs.find? k = some v) ∧
    (∀ key ∈ (m.toAttributes base "").keys, ∀ variant ∈ Element.styleVariants, ∀ start,
      key ≠ start ++ variant.2) ∧
    (e.styleLayers base).Pairwise KeyMap.Disjoint := by
  have hdisjoint := m.pairwise_disjoint_categoryAttributes base
  have hplain := find?_toAttributes_eq_some_iff_category m base
  refine ⟨hdisjoint, ?_, fun key v => ?_, fun key hkey variant hvariant => ?_,
    e.pairwise_disjoint_styleLayers base⟩
  · rw [length_toAttributes, toAttributes_eq_foldl_merge, KeyMap.length_foldl_merge hdisjoint]
  · by_cases hsuffix : suffix = ""
    · rw [hsuffix, hplain]
      simp only [String.append_empty, exists_eq_left']
    · rw [find?_toAttributes_eq_some_iff m base hsuffix]
      simp only [hplain]
      constructor
      · rintro ⟨k, hk, attrs, hattrs, hv⟩
        exact ⟨attrs, hattrs, k, hk, hv⟩
      · rintro ⟨attrs, hattrs, k, hk, hv⟩
        exact ⟨k, hk, attrs, hattrs, hv⟩
  · have hends := endsAsVariant_of_mem_styleKeys key (mem_styleKeys hkey)
    exact ne_append_of_endsAsVariant hends hvariant

end PageModules
