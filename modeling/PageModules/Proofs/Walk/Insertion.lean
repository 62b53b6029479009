import PageModules.Proofs.Layout.Fractions
import PageModules.Proofs.Lists
import PageModules.Proofs.Walk.Division

/-!
# Skipped elements in a row

Elements of skipped tags are no columns, so putting them among the children of a row leaves its
columns alone (`Plan.columns_of_insertsSkipped`).  The widths of the columns, though, are read from
all child elements: a division by widths is kept only if there are as many of these as columns
(`Element.divisionFor_eq`).  So the division of a row may change when skipped elements are put in;
`RowReading.drafts_insertsSkipped` says exactly when it does, and that nothing else changes.
-/

namespace PageModules

/-! ### Putting elements in -/

/-- The second list of nodes is the first one with elements of skipped tags put in. -/
inductive Node.InsertsSkipped : List Node → List Node → Prop where
  /-- Nothing is put in. -/
  | nil : InsertsSkipped [] []
  /-- A node that was there stays. -/
  | keep (n : Node) {ns ns' : List Node} (h : InsertsSkipped ns ns') :
    InsertsSkipped (n :: ns) (n :: ns')
  /-- An element of a skipped tag is put in. -/
  | insert (c : Element) (hc : Element.skippedTags.contains c.tagName = true) {ns ns' : List Node}
    (h : InsertsSkipped ns ns') : InsertsSkipped ns (c.toNode :: ns')

/-- The second element is the first one with elements of skipped tags put among its children. -/
structure Element.InsertsSkipped (e e' : Element) : Prop where
  /-- The tag stays as it is. -/
  tag_eq : e'.tag = e.tag
  /-- The children get company. -/
  children : Node.InsertsSkipped e.children e'.children

namespace Node

theorem InsertsSkipped.filter_eq {ns ns' : List Node} (h : InsertsSkipped ns ns') :
    (ns'.filterMap element?).filter (fun c => !Element.skippedTags.contains c.tagName) =
      (ns.filterMap element?).filter fun c => !Element.skippedTags.contains c.tagName := by
  induction h with
  | nil => rfl
  | keep n _ ih =>
    rw [List.filterMap_cons, List.filterMap_cons]
    cases n.element? with
    | none => exact ih
    | some c => rw [List.filter_cons, List.filter_cons, ih]
  | insert c hc _ ih =>
    have hcons (rest : List Node) :
        (c.toNode :: rest).filterMap element? = c :: rest.filterMap element? := rfl
    rw [hcons, List.filter_cons_of_neg (by rw [hc]; decide), ih]

/-- Whatever is put in counts among the child elements. -/
theorem InsertsSkipped.eq_or_length_lt {ns ns' : List Node} (h : InsertsSkipped ns ns') :
    ns' = ns ∨ (ns.filterMap element?).length < (ns'.filterMap element?).length := by
  induction h with
  | nil => exact Or.inl rfl
  | keep n _ ih =>
    rw [List.filterMap_cons, List.filterMap_cons]
    rcases ih with rfl | hlt
    · exact Or.inl rfl
    · right
      cases n.element? with
      | none => exact hlt
      | some c => exact Nat.succ_lt_succ hlt
  | @insert c hc ns ns' _ ih =>
    have hcons : ((c.toNode :: ns').filterMap element?).length =
        (ns'.filterMap element?).length + 1 := rfl
    rw [hcons]
    rcases ih with rfl | hlt
    · exact Or.inr (Nat.lt_succ_self _)
    · exact Or.inr (Nat.lt_succ_of_lt hlt)

end Node

namespace Element

variable {e e' : Element}

theorem InsertsSkipped.contentChildren_eq (h : e.InsertsSkipped e') :
    e'.contentChildren = e.contentChildren := h.children.filter_eq

theorem InsertsSkipped.rowWidth_eq (h : e.InsertsSkipped e') : e'.rowWidth = e.rowWidth := by
  rw [rowWidth, rowWidth, columnGroups, columnGroups, h.contentChildren_eq]

/-- Unless nothing is put in there are more child elements than before. -/
theorem InsertsSkipped.length_lt (h : e.InsertsSkipped e') (hne : e' ≠ e) :
    e.childElements.length < e'.childElements.length := by
  rcases h.children.eq_or_length_lt with hchildren | hlt
  · obtain ⟨tag, children⟩ := e
    obtain ⟨tag', children'⟩ := e'
    obtain rfl : tag' = tag := h.tag_eq
    exact absurd (congrArg (Element.mk tag') hchildren) hne
  · exact hlt

/-! ### What only the tag decides -/

theorem InsertsSkipped.eq_mk (h : e.InsertsSkipped e') : e' = ⟨e.tag, e'.children⟩ := by
  rw [← h.tag_eq]

end Element

/-- Whether a source reads the tag of an element, and nothing of what is inside. -/
def FieldSource.readsTag : FieldSource → Bool
  | attr _ => true
  | hasClass _ => true
  | classRest _ => true
  | _ => false

theorem FieldSource.value?_of_readsTag {source : FieldSource} (h : source.readsTag = true)
    (kind : FieldKind) (tag : Tag) (children children' : List Node) :
    source.value? kind ⟨tag, children⟩ = source.value? kind ⟨tag, children'⟩ := by
  cases source with
  | attr name => rfl
  | hasClass name => rfl
  | classRest start => rfl
  | _ => cases h

namespace Element

/-- The fields of a row stand on its tag. -/
theorem fields_row (tag : Tag) (children children' : List Node) :
    fields ⟨tag, children⟩ .row = fields ⟨tag, children'⟩ .row := by
  have hsources : (ModuleDefinition.of? .row).all (fun d =>
      d.fields.all fun rule => rule.sources.all FieldSource.readsTag) = true := by decide
  have hcatalog : catalogFields ⟨tag, children⟩ .row = catalogFields ⟨tag, children'⟩ .row := by
    unfold catalogFields
    cases hd : ModuleDefinition.of? .row with
    | none => rfl
    | some d =>
      rw [hd, Option.all_some, List.all_eq_true] at hsources
      dsimp only
      refine congrArg KeyMap.ofList (List.filterMap_congr fun rule hrule => ?_)
      have hrule := List.all_eq_true.mp (hsources rule hrule)
      have hfind : rule.sources.findSome? (fun source => source.value? rule.kind ⟨tag, children⟩) =
          rule.sources.findSome? fun source => source.value? rule.kind ⟨tag, children'⟩ := by
        rw [← List.head?_filterMap, ← List.head?_filterMap]
        refine congrArg List.head? (List.filterMap_congr fun source hsource => ?_)
        exact FieldSource.value?_of_readsTag (hrule source hsource) rule.kind tag _ _
      rw [FieldRule.value?, FieldRule.value?, hfind]
  rw [fields, fields, hcatalog]
  rfl

/-- Only the marker or the classes make an element a row. -/
theorem type?_eq_row_iff (e : Element) :
    e.type? = some .row ↔
      e.markedType?.or ((e.tagType?.or e.embedType?).or e.classType?) = some .row := by
  have hform : e.formType? ≠ some .row := by
    unfold formType?
    split
    · cases e.formRole <;> simp [FormRole.type]
    · simp
  have hbutton : e.buttonType? ≠ some .row := by
    unfold buttonType?
    split <;> simp
  have hleaf : e.leafType? ≠ some .row := by
    unfold leafType?
    split_ifs <;> simp
  unfold type? likelyType?
  rw [← Option.or_assoc, ← Option.or_assoc, ← Option.or_assoc]
  cases e.markedType?.or ((e.tagType?.or e.embedType?).or e.classType?) with
  | some type => rw [Option.some_or, Option.some_or, Option.some_or]
  | none =>
    simp only [Option.none_or, reduceCtorEq, iff_false, Option.or_eq_some_iff]
    rintro ((h | ⟨-, h⟩) | ⟨-, h⟩)
    · exact hform h
    · exact hbutton h
    · exact hleaf h

/-! ### Divisions -/

/-- The division that the author states for a row with the given attributes. -/
def statedDivision? (e : Element) (attrs : Attributes) : Option String :=
  ((attrs.find? "column_structure").bind Json.text?).or ((e.override? "columns").map Text.trim)

/-- The division by the widths of the child elements, if there are as many as columns and all of
their widths can be told. -/
def widthDivision? (e : Element) (columns : ℕ) : Option String :=
  if e.childElements.length = columns ∧ 2 ≤ columns then
    (e.childElements.mapM width?).map fun widths =>
      ",".intercalate (widths.map Layout.nearestFraction)
  else none

theorem equalColumns_min (n : ℕ) :
    Layout.equalColumns (min n Layout.maxColumns) = Layout.equalColumns n := by
  rw [Layout.equalColumns, Layout.equalColumns, Nat.min_assoc, Nat.min_self]

/-- A stated division counts if it has as many parts as there are columns. -/
theorem divisionFor_of_stated (e : Element) {attrs : Attributes} {s : String} (n : ℕ)
    (hstated : e.statedDivision? attrs = some s) :
    e.divisionFor attrs n = if columnTokens s = n then s else Layout.equalColumns n := by
  have hdivision :
      ((attrs.find? "column_structure").bind Json.text?).getD e.columnStructure = s := by
    rcases Option.or_eq_some_iff.mp hstated with hattrs | ⟨hattrs, hcolumns⟩
    · rw [hattrs, Option.getD_some]
    · obtain ⟨columns, hoverride, rfl⟩ := Option.map_eq_some_iff.mp hcolumns
      rw [hattrs, Option.getD_none, columnStructure, hoverride]
  unfold divisionFor
  dsimp only
  rw [hdivision]

/-- Where the author states no division, the one by widths counts if there is one. -/
theorem divisionFor_eq (e : Element) (attrs : Attributes) {n : ℕ}
    (hstated : e.statedDivision? attrs = none) :
    e.divisionFor attrs n = (e.widthDivision? n).getD (Layout.equalColumns n) := by
  obtain ⟨hattrs, hcolumns⟩ := Option.or_eq_none_iff.mp hstated
  rw [Option.map_eq_none_iff] at hcolumns
  unfold divisionFor widthDivision?
  dsimp only
  rw [hattrs, Option.getD_none, columnStructure, hcolumns]
  dsimp only
  by_cases hk : e.childElements.length ≤ 1
  · -- One column is as wide as the row.
    have hone : columnTokens "1" = 1 := by decide
    have hfew : ¬(e.childElements.length = n ∧ 2 ≤ n) := by omega
    rw [if_pos hk, hone, if_neg hfew, Option.getD_none]
    split
    case isTrue hn => rw [← hn]; rfl
    case isFalse => rfl
  · rw [if_neg hk]
    cases hwidths : e.childElements.mapM width? with
    | none =>
      have htokens : columnTokens (Layout.equalColumns e.childElements.length) =
          min e.childElements.length Layout.maxColumns := by
        rw [← equalColumns_min]
        have hmax : Layout.maxColumns = 12 := rfl
        exact columnTokens_equalColumns (by omega) (Nat.min_le_right _ _)
      dsimp only
      rw [htokens, Option.map_none, ite_self, Option.getD_none]
      split
      case isTrue hn => rw [← hn, equalColumns_min]
      case isFalse => rfl
    | some widths =>
      have hlength := Lists.length_eq_of_mapM hwidths
      have hne : widths ≠ [] := by
        rintro rfl
        rw [List.length_nil] at hlength
        omega
      dsimp only
      have hwords : widths.map Layout.nearestFraction ≠ [] := by rwa [ne_eq, List.map_eq_nil_iff]
      rw [columnTokens_intercalate hwords
          (List.forall_mem_map.mpr fun w _ => Layout.nearestFraction_word w),
        List.length_map, hlength, Option.map_some]
      by_cases hn : e.childElements.length = n
      · rw [if_pos hn, if_pos ⟨hn, by omega⟩, Option.getD_some]
      · rw [if_neg hn, if_neg (fun h => hn h.1), Option.getD_none]

/-- The division by widths, if there is one, is into equal columns. -/
def IsEven (e : Element) (columns : ℕ) : Prop :=
  ∀ s, e.widthDivision? columns = some s → s = Layout.equalColumns columns

variable {e e' : Element}

theorem InsertsSkipped.statedDivision?_eq (h : e.InsertsSkipped e') (attrs : Attributes) :
    e'.statedDivision? attrs = e.statedDivision? attrs := by
  rw [h.eq_mk]
  rfl

/-- Skipped elements that are put in change the division that nobody states exactly if the widths do
not divide the row evenly. -/
theorem InsertsSkipped.divisionFor_eq_iff (h : e.InsertsSkipped e') (hne : e' ≠ e)
    {attrs : Attributes} {n : ℕ} (hstated : e.statedDivision? attrs = none) :
    e'.divisionFor attrs n = e.divisionFor attrs n ↔ e.IsEven n ∧ e'.IsEven n := by
  have hstated' := (h.statedDivision?_eq attrs).trans hstated
  have hlt := h.length_lt hne
  rw [divisionFor_eq e attrs hstated, divisionFor_eq e' attrs hstated']
  unfold IsEven
  -- There are more child elements than before, so at most once as many as columns.
  by_cases hn : e.childElements.length = n
  · have hnone : e'.widthDivision? n = none := if_neg (by omega)
    rw [hnone, Option.getD_none]
    cases e.widthDivision? n with
    | none => simp
    | some s => simp [eq_comm]
  · have hnone : e.widthDivision? n = none := if_neg (fun h => hn h.1)
    rw [hnone, Option.getD_none]
    cases e'.widthDivision? n with
    | none => simp
    | some s => simp

/-! ### Attributes of a row -/

/-- What an attribute overrides has a value. -/
theorem exists_find?_overrides {e : Element} {key : String} (h : e.IsOverridden key) :
    ∃ v, e.overrides.find? key = some v := by
  obtain ⟨a, ha, hkey⟩ := h
  have hmem : (key, attributeValue a.value) ∈ e.tag.attrs.filterMap fun a =>
      (overrideKey? a.name).map fun k => (k, attributeValue a.value) :=
    List.mem_filterMap.mpr ⟨a, ha, by rw [hkey, Option.map_some]⟩
  rw [overrides, KeyMap.find?_ofList]
  exact Entries.exists_lookup_of_mem (List.mem_reverse.mpr hmem)

theorem find?_finish_of_isOverridden {e : Element} {key : String} (hkey : key ∉ transientKeys)
    (h : e.IsOverridden key) (base : Int) (attrs attrs' : Attributes) :
    (e.finish base attrs).find? key = (e.finish base attrs').find? key := by
  obtain ⟨v, hv⟩ := exists_find?_overrides h
  rw [find?_finish_of_not_mem hkey, find?_finish_of_not_mem hkey, hv, Option.some_or,
    Option.some_or]

/-- Under a key that finishing starts with the same value for, it ends with the same value. -/
theorem find?_finish_congr (e : Element) (base : Int) {attrs attrs' : Attributes} {key : String}
    (h : attrs.find? key = attrs'.find? key) :
    (e.finish base attrs).find? key = (e.finish base attrs').find? key := by
  by_cases hkey : key ∈ transientKeys
  · rw [find?_finish_of_mem hkey, find?_finish_of_mem hkey]
  · rw [find?_finish_of_not_mem hkey, find?_finish_of_not_mem hkey, h]

/-- A third and two thirds of a row. -/
def unevenParts : List Element :=
  [⟨⟨.html, "div", [⟨.none, "class", "col-4"⟩]⟩, [.text "a"]⟩,
    ⟨⟨.html, "div", [⟨.none, "class", "col-8"⟩]⟩, [.text "b"]⟩]

/-- A row of two columns of different widths. -/
def unevenRow : Element :=
  ⟨⟨.html, "div", [⟨.none, "class", "row"⟩]⟩, unevenParts.map toNode⟩

/-- The same row with a style sheet in front of its columns. -/
def unevenStyledRow : Element :=
  ⟨⟨.html, "div", [⟨.none, "class", "row"⟩]⟩, (plain "style" [] :: unevenParts).map toNode⟩

theorem insertsSkipped_unevenStyledRow : unevenRow.InsertsSkipped unevenStyledRow :=
  ⟨rfl, .insert (plain "style" []) (by decide) (.keep _ (.keep _ .nil))⟩

end Element

/-! ### Rows -/

/-- Inserting skipped elements leaves the columns of a row as they are. -/
theorem Plan.columns_of_insertsSkipped (threshold : ℕ) {e e' : Element}
    (h : e.InsertsSkipped e') : columns threshold e' = columns threshold e := by
  rw [columns_eq, columns_eq, h.contentChildren_eq]

/-- The ways in which the walk makes a row of an element. -/
inductive RowReading where
  /-- The element is of the type. -/
  | typed
  /-- The element looks like a row, and no marker names another type. -/
  | shaped

namespace RowReading

/-- Whether the walk reads an element in this way where it looks for rows. -/
def Applies : RowReading → Element → Prop
  | typed, e => e.type? = some .row
  | shaped, e => e.isRowLike = true ∧ e.markedType? = none

/-- The plan of the row. -/
def plan (threshold : ℕ) (notes : List Note) (e : Element) : RowReading → Plan
  | typed => Plan.ofTyped threshold notes e .row
  | shaped => Plan.ofRow threshold notes e

/-- The attributes of the row before it is divided and finished. -/
def settings (base : Int) (e : Element) : RowReading → Attributes
  | typed => ((e.fields .row).merge (e.styleAttributes base)).merge e.rowLayout
  | shaped => (e.styleAttributes base).merge e.rowLayout

/-- The attributes of the row. -/
def attributes (base : Int) (e : Element) (way : RowReading) : Attributes :=
  e.finish base (e.withDivision e.rowWidth (way.settings base e))

variable {e e' : Element} (way : RowReading)

/-- A row is one module around its columns. -/
theorem drafts_plan (h : way.Applies e) (threshold : ℕ) (notes : List Note) (base : Int) :
    (way.plan threshold notes e).drafts base =
      [.node .row (way.attributes base e) false
        (Plan.draftsAll base (Plan.columns threshold e))] := by
  have hlength : (Plan.draftsAll base (Plan.columns threshold e)).length = e.rowWidth := by
    rw [Plan.length_draftsAll base (Plan.hasModule_of_mem_columns threshold e),
      Plan.length_columns]
  cases way with
  | typed =>
    rw [plan, Plan.ofTyped, Plan.typedChildren_row, attributes, settings, ← hlength]
    rfl
  | shaped =>
    rw [plan, Plan.ofRow_of_none threshold h.2, attributes, settings, ← hlength]
    rfl

/-- Whether an element is a row stands on its tag. -/
theorem applies_of_tag_eq (happlies : way.Applies e) (h : e'.tag = e.tag) : way.Applies e' := by
  obtain ⟨tag, children⟩ := e'
  obtain rfl : tag = e.tag := h
  cases way with
  | shaped => exact happlies
  | typed => exact (Element.type?_eq_row_iff _).mpr ((Element.type?_eq_row_iff e).mp happlies)

theorem settings_of_insertsSkipped (h : e.InsertsSkipped e') (base : Int) :
    way.settings base e' = way.settings base e := by
  rw [h.eq_mk]
  cases way with
  | typed =>
    rw [settings, settings, Element.fields_row e.tag e'.children e.children]
    rfl
  | shaped => rfl

/-- **Skipped elements among the columns**: when elements of skipped tags are put among the children
of a row, the row has the same columns as before with the same contents, and all of its attributes
but the division stay.  The division stays exactly if nothing was put in, the author sets the
division, or the widths of the children divide the row evenly if at all. -/
theorem drafts_insertsSkipped (happlies : way.Applies e) (h : e.InsertsSkipped e')
    (threshold : ℕ) (notes : List Note) (base : Int) :
    way.Applies e' ∧ ∃ m m', (way.plan threshold notes e).drafts base = [m] ∧
      (way.plan threshold notes e').drafts base = [m'] ∧
      m'.type = m.type ∧ m'.children = m.children ∧
      (∀ key ≠ "column_structure", m'.attrs.find? key = m.attrs.find? key) ∧
      (m'.attrs.find? "column_structure" = m.attrs.find? "column_structure" ↔
        e' = e ∨ e.IsOverridden "column_structure" ∨
          (e.statedDivision? (way.settings base e)).isSome = true ∨
          e.IsEven e.rowWidth ∧ e'.IsEven e.rowWidth) := by
  have happlies' := way.applies_of_tag_eq happlies h.tag_eq
  have hfinish (attrs : Attributes) : e'.finish base attrs = e.finish base attrs := by
    rw [h.eq_mk]
    rfl
  have hattrs : way.attributes base e' =
      e.finish base (e'.withDivision e.rowWidth (way.settings base e)) := by
    rw [attributes, hfinish, h.rowWidth_eq, way.settings_of_insertsSkipped h]
  have hm := way.drafts_plan happlies threshold notes base
  have hm' := way.drafts_plan happlies' threshold notes base
  refine ⟨happlies', _, _, hm, hm', ?_, ?_, ?_, ?_⟩
  · change ModuleType.row = ModuleType.row
    rfl
  · exact congrArg (Plan.draftsAll base) (Plan.columns_of_insertsSkipped threshold h)
  · intro key hkey
    change (way.attributes base e').find? key = (way.attributes base e).find? key
    rw [hattrs]
    apply e.find?_finish_congr
    rw [Element.withDivision, Element.withDivision, KeyMap.find?_insert, KeyMap.find?_insert,
      if_neg hkey.symm, if_neg hkey.symm]
  · change (way.attributes base e').find? _ = (way.attributes base e).find? _ ↔ _
    by_cases hover : e.IsOverridden "column_structure"
    · -- The value of an override stays, whatever the row is divided into.
      rw [hattrs]
      exact iff_of_true (Element.find?_finish_of_isOverridden (by decide) hover base _ _)
        (Or.inr (Or.inl hover))
    · have hover' : ¬ e'.IsOverridden "column_structure" := by
        rw [h.eq_mk]
        exact hover
      rw [attributes, attributes, Element.find?_finish_withDivision hover',
        Element.find?_finish_withDivision hover, h.rowWidth_eq, way.settings_of_insertsSkipped h,
        Option.some_inj, Json.text.injEq]
      by_cases hsame : e' = e
      · subst hsame
        exact iff_of_true rfl (Or.inl rfl)
      cases hstated : e.statedDivision? (way.settings base e) with
      | some s =>
        have hstated' := (h.statedDivision?_eq _).trans hstated
        refine iff_of_true ?_ (Or.inr (Or.inr (Or.inl rfl)))
        rw [Element.divisionFor_of_stated e _ hstated, Element.divisionFor_of_stated e' _ hstated']
      | none =>
        rw [h.divisionFor_eq_iff hsame hstated]
        simp [hsame, hover]

/-- A style sheet in a row leaves its two columns alone, and changes its division, which is not
even. -/
theorem drafts_insertsSkipped_unevenStyledRow :
    shaped.Applies .unevenRow ∧ Element.unevenRow.InsertsSkipped .unevenStyledRow ∧
      ∃ m m', (shaped.plan 50 [] .unevenRow).drafts 16 = [m] ∧
        (shaped.plan 50 [] .unevenStyledRow).drafts 16 = [m'] ∧
        m'.type = m.type ∧ m'.children = m.children ∧
        m'.attrs.find? "column_structure" ≠ m.attrs.find? "column_structure" := by
  have happlies : shaped.Applies .unevenRow := ⟨by decide +kernel, by decide +kernel⟩
  have hinserts := Element.insertsSkipped_unevenStyledRow
  obtain ⟨-, m, m', hm, hm', htype, hchildren, -, hdivision⟩ :=
    drafts_insertsSkipped shaped happlies hinserts 50 [] 16
  refine ⟨happlies, hinserts, m, m', hm, hm', htype, hchildren, mt hdivision.mp ?_⟩
  rintro (hsame | ⟨a, ha, hkey⟩ | hstated | ⟨heven, -⟩)
  · have hlength := congrArg (fun e : Element => e.children.length) hsame
    exact absurd hlength (by decide)
  · obtain rfl := List.mem_singleton.mp ha
    revert hkey
    decide +kernel
  · revert hstated
    decide +kernel
  · have hwidths : Element.unevenRow.widthDivision? Element.unevenRow.rowWidth =
        some "1_3,2_3" := by decide +kernel
    exact absurd (heven _ hwidths) (by decide +kernel)

/-- A style sheet between columns of different widths takes their widths away. -/
theorem find?_division_unevenStyledRow :
    Element.unevenRow.InsertsSkipped .unevenStyledRow ∧ shaped.Applies .unevenRow ∧
      shaped.Applies .unevenStyledRow ∧
      (shaped.attributes 16 .unevenRow).find? "column_structure" = some (.text "1_3,2_3") ∧
      (shaped.attributes 16 .unevenStyledRow).find? "column_structure" =
        some (.text "1_2,1_2") := by
  have happlies : shaped.Applies .unevenRow := ⟨by decide +kernel, by decide +kernel⟩
  have hinserts := Element.insertsSkipped_unevenStyledRow
  -- Nobody states a division, so the widths of the child elements count.
  have hdivision (e : Element) (htag : e.tag = Element.unevenRow.tag)
      (hstated : e.statedDivision? (shaped.settings 16 e) = none) :
      (shaped.attributes 16 e).find? "column_structure" =
        some (.text ((e.widthDivision? e.rowWidth).getD (Layout.equalColumns e.rowWidth))) := by
    have hover : ¬ e.IsOverridden "column_structure" := by
      have hall : ∀ a ∈ Element.unevenRow.tag.attrs,
          ¬ Element.overrideKey? a.name = some "column_structure" := by decide +kernel
      rintro ⟨a, ha, hkey⟩
      exact hall a (htag ▸ ha) hkey
    rw [attributes, Element.find?_finish_withDivision hover, Element.divisionFor_eq e _ hstated]
  have hwidths : (Element.unevenRow.widthDivision? Element.unevenRow.rowWidth).getD
      (Layout.equalColumns Element.unevenRow.rowWidth) = "1_3,2_3" := by decide +kernel
  have hequal : (Element.unevenStyledRow.widthDivision? Element.unevenStyledRow.rowWidth).getD
      (Layout.equalColumns Element.unevenStyledRow.rowWidth) = "1_2,1_2" := by decide +kernel
  refine ⟨hinserts, happlies, shaped.applies_of_tag_eq happlies hinserts.tag_eq, ?_, ?_⟩
  · rw [hdivision .unevenRow rfl (by decide +kernel), hwidths]
  · rw [hdivision .unevenStyledRow rfl (by decide +kernel), hequal]

end RowReading

end PageModules
