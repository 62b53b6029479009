import PageModules.Proofs.Json.Agreement
import PageModules.Proofs.Style.Variants

/-!
# The base font size

The base font size is asked only for lengths in pixels. A style gives the same attributes under
every base size, apart from the values under the keys of pixel lengths
(`StyleMap.agree_toAttributes`); no length decides whether a key is there.
-/

namespace PageModules

namespace StyleMap

/-! ### Keys of pixel lengths -/

/-- The keys whose values are lengths in pixels. -/
def pixelKeys : List String :=
  (["margin", "padding", "position"].flatMap fun part =>
    Shorthand.sides.map fun side => part ++ "_" ++ side) ++
  ["gap", "row_gap", "column_gap", "border_width", "border_radius", "font_size", "letter_spacing",
    "word_spacing", "width", "max_width", "min_width", "height", "max_height", "min_height"]

/-- Everywhere the same keys, and the same values except under a pixel key with one of the suffixes.
-/
def sizeAccord (suffixes : List String) : Accord where
  keys _ := True
  values k := ∀ key ∈ pixelKeys, ∀ suffix ∈ suffixes, k ≠ key ++ suffix

/-- The accord of attributes without a suffix. -/
def plainAccord : Accord := sizeAccord [""]

/-- Under a pixel key only the presence of the values has to agree. -/
theorem holds_of_mem_pixelKeys {key : String} (hkey : key ∈ pixelKeys) {x y : Option Json}
    (h : x.isSome = y.isSome) : plainAccord.Holds key x y := by
  refine ⟨fun _ => h, fun hvalues => ?_⟩
  have hne : key ≠ key ++ "" := hvalues key hkey "" List.mem_cons_self
  exact absurd String.append_empty.symm hne

/-- Values that are computed under two base sizes from one source agree under a pixel key. -/
theorem holds_map {α : Type} {key : String} (hkey : key ∈ pixelKeys) (f g : α → Json)
    (x : Option α) : plainAccord.Holds key (x.map f) (x.map g) :=
  holds_of_mem_pixelKeys hkey (by rw [Option.isSome_map, Option.isSome_map])

variable (base base' : Int) (m : StyleMap)

theorem mem_pixelKeys_sides :
    ∀ part ∈ ["margin", "padding", "position"], ∀ side ∈ Shorthand.sides,
      part ++ "_" ++ side ∈ pixelKeys := by
  intro part hpart side hside
  have hkey := List.mem_map_of_mem (f := fun side => part ++ "_" ++ side) hside
  exact List.mem_append_left _ (List.mem_flatMap.mpr ⟨part, hpart, hkey⟩)

/-! ### The categories -/

theorem agree_spacing : (spacing base m).Agree plainAccord (spacing base' m) := by
  have hsides : ∀ part ∈ ["margin", "padding"],
      AttributeDraft.Agree plainAccord
        (Shorthand.sides.map fun side =>
          (part ++ "_" ++ side, m.pixelsOf base (part ++ "-" ++ side)))
        (Shorthand.sides.map fun side =>
          (part ++ "_" ++ side, m.pixelsOf base' (part ++ "-" ++ side))) := by
    intro part hpart
    have hpart : part ∈ ["margin", "padding", "position"] :=
      List.mem_append_left ["position"] hpart
    exact AttributeDraft.Agree.map fun side hside =>
      holds_map (mem_pixelKeys_sides part hpart side hside) _ _ _
  refine .ofDraft (.append (.flatMap hsides) ?_)
  exact .cons (holds_map (by decide) _ _ _) (.cons (holds_map (by decide) _ _ _)
    (.cons (holds_map (by decide) _ _ _) (.refl _ _)))

theorem isSome_borderWidths : (borderWidths base m).isSome = (borderWidths base' m).isSome := by
  unfold borderWidths
  dsimp only
  split
  · rw [Option.isSome_some, Option.isSome_some]
  · rfl

theorem isSome_borderRadii : (borderRadii base m).isSome = (borderRadii base' m).isSome := by
  -- A corner has a radius under each base size or under none.
  have hradii : (Shorthand.corners.filterMap fun corner =>
        (m.pixelsOf base ("border-" ++ corner ++ "-radius")).map fun v =>
          (underscored corner, v)).isEmpty =
      (Shorthand.corners.filterMap fun corner =>
        (m.pixelsOf base' ("border-" ++ corner ++ "-radius")).map fun v =>
          (underscored corner, v)).isEmpty := by
    rw [Bool.eq_iff_iff]
    simp only [List.isEmpty_iff, List.filterMap_eq_nil_iff, pixelsOf,
      Option.map_eq_none_iff]
  unfold borderRadii
  dsimp only
  rw [hradii]
  split
  · exact Eq.refl (m.textOf "border-radius").isSome
  · rw [Option.isSome_some, Option.isSome_some]

theorem agree_border : (border base m).Agree plainAccord (border base' m) := by
  refine .ofDraft (.cons ?_ (.cons (.refl _ _ _) (.cons (.refl _ _ _) (.cons ?_ .nil))))
  · exact holds_of_mem_pixelKeys (by decide) (isSome_borderWidths base base' m)
  · exact holds_of_mem_pixelKeys (by decide) (isSome_borderRadii base base' m)

theorem agree_typography : (typography base m).Agree plainAccord (typography base' m) := by
  have hsize : plainAccord.Holds "font_size" (m.pixelsOf base "font-size")
      (m.pixelsOf base' "font-size") := holds_map (by decide) _ _ _
  have hletter : plainAccord.Holds "letter_spacing" (m.pixelsOf base "letter-spacing")
      (m.pixelsOf base' "letter-spacing") := holds_map (by decide) _ _ _
  have hword : plainAccord.Holds "word_spacing" (m.pixelsOf base "word-spacing")
      (m.pixelsOf base' "word-spacing") := holds_map (by decide) _ _ _
  refine .ofDraft (.append (.append ?_ (.refl _ _)) (.refl _ _))
  exact .cons (.refl _ _ _) (.cons hsize (.cons (.refl _ _ _) (.cons (.refl _ _ _)
    (.cons hletter (.cons hword .nil)))))

theorem agree_sizing : (sizing base m).Agree plainAccord (sizing base' m) := by
  have hnames : ∀ name ∈ ["width", "max-width", "min-width", "height", "max-height", "min-height"],
      underscored name ∈ pixelKeys := by decide +kernel
  refine .ofDraft (.append (.map fun name hname => ?_) (.refl _ _))
  exact holds_map (hnames name hname) _ _ _

theorem agree_positioning : (positioning base m).Agree plainAccord (positioning base' m) := by
  have hsides : ∀ side ∈ Shorthand.sides, "position_" ++ side ∈ pixelKeys := by decide +kernel
  refine .ofDraft (.append (.append (.refl _ _) (.map fun side hside => ?_)) (.refl _ _))
  exact holds_map (hsides side hside) _ _ _

/-- The base size changes nothing in a category but values under pixel keys. -/
theorem agree_category : ∀ category ∈ categories,
    (category base m).Agree plainAccord (category base' m) := by
  unfold categories
  simp only [List.forall_mem_cons, List.not_mem_nil, false_imp_iff, implies_true, and_true]
  exact ⟨.refl _ _, agree_spacing base base' m, agree_border base base' m, .refl _ _,
    agree_typography base base' m, .refl _ _, .refl _ _, agree_sizing base base' m,
    agree_positioning base base' m, .refl _ _, .refl _ _⟩

/-! ### The conversion -/

/-- Merging categories keeps an accord. -/
theorem agree_foldl_merge {c : Accord} {parts : List (Int → StyleMap → Attributes)}
    (h : ∀ part ∈ parts, (part base m).Agree c (part base' m)) {a b : Attributes}
    (hstart : a.Agree c b) :
    (parts.foldl (fun attrs part => attrs.merge (part base m)) a).Agree c
      (parts.foldl (fun attrs part => attrs.merge (part base' m)) b) := by
  induction parts generalizing a b with
  | nil => exact hstart
  | cons part rest ih =>
    obtain ⟨hpart, hrest⟩ := List.forall_mem_cons.mp h
    exact ih hrest (hstart.merge hpart)

/-- **The base size only scales lengths**: under two base sizes a style gives the same keys, and the
values differ at most under the keys of pixel lengths. -/
theorem agree_toAttributes :
    (m.toAttributes base "").Agree plainAccord (m.toAttributes base' "") := by
  unfold toAttributes
  dsimp only
  rw [if_pos rfl, if_pos rfl]
  exact agree_foldl_merge base base' m.expand (agree_category base base' m.expand) (.refl _ _)

/-- Attributes that agree still do so when all keys get a suffix. -/
theorem agree_withSuffix {suffixes : List String} {suffix : String} (hsuffix : suffix ∈ suffixes)
    {a b : Attributes} (h : a.Agree plainAccord b) :
    (withSuffix a suffix).Agree (sizeAccord suffixes) (withSuffix b suffix) := by
  intro k
  by_cases hk : ∃ key, k = key ++ suffix
  · obtain ⟨key, rfl⟩ := hk
    rw [find?_withSuffix, find?_withSuffix]
    refine ⟨fun _ => (h key).1 trivial, fun hvalues => (h key).2 fun pixel hpixel s hs heq => ?_⟩
    rw [List.mem_singleton.mp hs, String.append_empty] at heq
    exact hvalues pixel hpixel suffix hsuffix (congrArg (· ++ suffix) heq)
  · have hnone (attrs : Attributes) : (withSuffix attrs suffix).find? k = none := by
      rw [Option.eq_none_iff_forall_ne_some]
      intro v hv
      exact hk (exists_eq_append_of_find?_withSuffix hv)
    rw [hnone, hnone]
    exact .refl _ k none

/-- The style of a variant depends on the base size under the suffixed keys of pixel lengths only.
-/
theorem agree_variantAttributes {suffixes : List String} {suffix : String} (hne : suffix ≠ "")
    (hsuffix : suffix ∈ suffixes) (text : Option String) :
    (variantAttributes text base suffix).Agree (sizeAccord suffixes)
      (variantAttributes text base' suffix) := by
  have hwith (m : StyleMap) (base : Int) :
      m.toAttributes base suffix = withSuffix (m.toAttributes base "") suffix := by
    rw [toAttributes, if_neg hne, toAttributes, if_pos rfl]
  cases text with
  | none => exact .refl _ _
  | some text =>
    unfold variantAttributes
    dsimp only
    split
    · exact .refl _ _
    · rw [hwith, hwith]
      exact agree_withSuffix hsuffix (agree_toAttributes base base' _)

end StyleMap

namespace Element

open StyleMap

variable (base base' : Int) (e : Element)

/-- The keys of pixel lengths, plain or with the suffix of a variant, are those under which values
may depend on the base size. -/
def fontSizeAccord : Accord := sizeAccord ("" :: styleVariants.map (·.2))

theorem agree_styleAttributes :
    (e.styleAttributes base).Agree fontSizeAccord (e.styleAttributes base') :=
  (agree_toAttributes base base' e.style).mono (fun _ h => h) fun _ h key hkey suffix hsuffix =>
    h key hkey suffix (List.mem_singleton.mp hsuffix ▸ List.mem_cons_self)

theorem agree_variants :
    (e.variantAttributes base).Agree fontSizeAccord (e.variantAttributes base') := by
  have hvariant (name suffix : String) (hmem : (name, suffix) ∈ styleVariants) (hne : suffix ≠ "") :
      (StyleMap.variantAttributes (e.attr? name) base suffix).Agree fontSizeAccord
        (StyleMap.variantAttributes (e.attr? name) base' suffix) := by
    have hsuffix : suffix ∈ "" :: styleVariants.map (·.2) :=
      List.mem_cons_of_mem _ (List.mem_map_of_mem hmem)
    exact agree_variantAttributes base base' hne hsuffix _
  refine .merge (.merge ?_ ?_) ?_
  · exact hvariant tabletStyleName tabletSuffix (by decide) (by decide)
  · exact hvariant phoneStyleName phoneSuffix (by decide) (by decide)
  · exact hvariant hoverStyleName hoverSuffix (by decide) (by decide)

end Element

end PageModules
