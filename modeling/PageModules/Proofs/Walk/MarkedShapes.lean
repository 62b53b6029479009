import PageModules.Proofs.Walk.Precedence
import PageModules.Proofs.Walk.WideRows
import PageModules.Walk.Session

/-!
# Rows and columns with and without markers

A row and a column can be told by their shape or by their marker.  Where the author overrides
nothing it makes no difference: both ways give the same module, with the same identifiers, and an
element that looks like a row or a column may as well be marked as one
(`Session.makesSame_of_marker?_eq_none`).

* The catalog reads the fields of rows and columns from author overrides only
  (`Element.fields_eq_empty`), so the types add nothing to what the shapes give
  (`Origin.typedAttributes_eq`).
* A marker is written on an element by `Element.MarkedAs`.  It is not looked at where attributes and
  contents are put together (`Element.MarkedAs.typedModule_eq`).
* The modules beside a row or a column do not change if another element with the same module takes
  its place (`Plan.draftsAll_rows_replace`, `Plan.draftsAll_columns_replace`).
-/

namespace PageModules

/-! ### Elements without overrides -/

/-- Whether a source is an author override. -/
def FieldSource.isOverride : FieldSource → Bool
  | attr name => Text.startsWith Element.overrideMark name
  | _ => false

/-- Whether a field has no value but the one of an author override. -/
def FieldRule.isAuthored (rule : FieldRule) : Bool :=
  rule.default.isNone && rule.sources.all FieldSource.isOverride

namespace Element

/-- No attribute of the element is an author override. -/
def IsNotOverridden (e : Element) : Prop :=
  ∀ a ∈ e.tag.attrs, Text.startsWith overrideMark a.name = false

instance (e : Element) : Decidable e.IsNotOverridden :=
  inferInstanceAs (Decidable (∀ a ∈ e.tag.attrs, Text.startsWith overrideMark a.name = false))

variable {e : Element}

namespace IsNotOverridden

variable (h : e.IsNotOverridden)

include h

theorem dropPiece?_eq_none {a : Attr} (ha : a ∈ e.tag.attrs) :
    Text.dropPiece? overrideMark a.name = none := by
  have hstart := h a ha
  rw [Text.startsWith, ← List.isSome_isPrefixOf?_eq_isPrefixOf, Option.isSome_eq_false_iff,
    Option.isNone_iff_eq_none] at hstart
  rw [Text.dropPiece?, hstart, Option.map_none]

theorem overrides_eq_empty : e.overrides = .empty := by
  have hnone : e.tag.attrs.filterMap (fun a =>
      (overrideKey? a.name).map fun k => (k, attributeValue a.value)) = [] := by
    rw [List.filterMap_eq_nil_iff]
    intro a ha
    rw [overrideKey?, h.dropPiece?_eq_none ha]
    rfl
  rw [overrides, hnone]
  rfl

theorem override?_eq_none (name : String) : e.override? name = none := by
  have hnone : e.tag.attrs.find? (fun a => (Text.dropPiece? overrideMark a.name).any fun rest =>
      Text.sameIgnoringCase rest name) = none := by
    rw [List.find?_eq_none]
    intro a ha
    rw [h.dropPiece?_eq_none ha]
    exact Bool.false_ne_true
  rw [override?, hnone]
  rfl

theorem value?_eq_none {rule : FieldRule} (hrule : rule.isAuthored = true) :
    rule.value? e = none := by
  rw [FieldRule.isAuthored, Bool.and_eq_true, Option.isNone_iff_eq_none, List.all_eq_true] at hrule
  obtain ⟨hdefault, hsources⟩ := hrule
  have hnone : rule.sources.findSome? (fun source => source.value? rule.kind e) = none := by
    rw [List.findSome?_eq_none_iff]
    intro source hsource
    have hoverride := hsources source hsource
    cases source with
    | attr name =>
      have hattr : e.attr? name = none := by
        rw [attr?, Option.map_eq_none_iff, List.find?_eq_none]
        intro a ha hname
        rw [Bool.and_eq_true, beq_iff_eq] at hname
        have hstart := h a ha
        rw [hname.2, ← FieldSource.isOverride, hoverride] at hstart
        cases hstart
      rw [FieldSource.value?, hattr, Option.bind_none]
    | _ => cases hoverride
  rw [FieldRule.value?, hnone, hdefault, Option.none_or]

end IsNotOverridden

/-- Rows and columns have no fields but author overrides. -/
theorem fields_eq_empty (h : e.IsNotOverridden) {type : ModuleType}
    (htype : type = .row ∨ type = .column) : e.fields type = .empty := by
  have hauthored : (ModuleDefinition.of? type).all (fun d => d.fields.all FieldRule.isAuthored) =
      true := by
    rcases htype with rfl | rfl <;> decide
  have hcatalog : e.catalogFields type = .empty := by
    unfold catalogFields
    cases hd : ModuleDefinition.of? type with
    | none => rfl
    | some d =>
      rw [hd, Option.all_some, List.all_eq_true] at hauthored
      have hnone : d.fields.filterMap (fun rule => (rule.value? e).map fun v => (rule.name, v)) =
          [] := by
        rw [List.filterMap_eq_nil_iff]
        intro rule hrule
        rw [h.value?_eq_none (hauthored rule hrule), Option.map_none]
      dsimp only
      rw [hnone]
      rfl
  rw [fields, hcatalog, h.overrides_eq_empty]
  rfl

end Element

/-! ### Rows and columns by their shape -/

namespace Origin

variable {e : Element} (h : e.IsNotOverridden) (base : Int) (inside : ℕ)

include h

theorem typedAttributes_eq {type : ModuleType} (htype : type = .row ∨ type = .column) :
    typedAttributes e type base inside =
      if type = .row then e.withDivision inside ((e.styleAttributes base).merge e.rowLayout)
      else e.styleAttributes base := by
  have hmerge : (e.fields type).merge (e.styleAttributes base) = e.styleAttributes base := by
    refine KeyMap.ext_find? fun key => ?_
    rw [Element.fields_eq_empty h htype, KeyMap.find?_merge, KeyMap.find?_empty, Option.or_none]
  rw [typedAttributes, hmerge]

theorem attributes_typed_row :
    (typed e .row).attributes base inside = (shapedRow e).attributes base inside := by
  rw [attributes, typedAttributes_eq h base inside (.inl rfl), if_pos rfl, attributes]

theorem attributes_typed_column :
    (typed e .column).attributes base inside = (shapedColumn e).attributes base inside := by
  rw [attributes, typedAttributes_eq h base inside (.inr rfl), if_neg (by decide), attributes]

end Origin

namespace Plan

variable (threshold : ℕ) (base : ℤ)

theorem typedModule_eq (e : Element) (type : ModuleType) :
    typedModule threshold base e type =
      .node type ((Origin.typed e type).attributes base
        (draftsAll base (typedChildren threshold e type)).length) false
        (draftsAll base (typedChildren threshold e type)) := by
  rw [typedModule, ofTyped]
  rfl

/-- A plan of a module that stays as it is. -/
theorem drafts_node_of_type? {o : Origin} (hwrapper : o.isWrapper = false) {type : ModuleType}
    (htype : o.type? = some type) (notes : List Note) (children : List Plan) :
    (node notes o children).drafts base =
      [.node type (o.attributes base (draftsAll base children).length) false
        (draftsAll base children)] := by
  rw [drafts_eq, origin_node, if_neg (by simp [hwrapper]), ownModule?, origin_node, htype,
    Option.map_some, Option.toList_some, moduleOf, origin_node, inner_node, hwrapper]

variable {e : Element} (hmarked : e.markedType? = none) (h : e.IsNotOverridden)

include hmarked h

/-- A row that is told by its shape is the module of its type. -/
theorem drafts_ofRow (notes : List Note) :
    (ofRow threshold notes e).drafts base = [typedModule threshold base e .row] := by
  rw [ofRow_of_none threshold hmarked, drafts_node_of_type? base rfl rfl, typedModule_eq,
    typedChildren_row, Origin.attributes_typed_row h]

/-- A column that is told by its shape is the module of its type. -/
theorem drafts_ofColumn :
    (ofColumn threshold e).drafts base = [typedModule threshold base e .column] := by
  rw [ofColumn_of_none threshold hmarked, drafts_node_of_type? base rfl rfl, typedModule_eq,
    typedChildren_column, Origin.attributes_typed_column h]

end Plan

/-! ### Rows and columns among others -/

namespace Plan

variable (threshold : ℕ) (base : ℤ)

/-- The notes on a row do not count for its module. -/
theorem drafts_ofRowGroup (notes : List Note) (g : Run Element) :
    (ofRowGroup threshold notes g).drafts base = (ofRowGroup threshold [] g).drafts base := by
  cases g with
  | single e =>
    rw [ofRowGroup_single, ofRowGroup_single]
    cases hmarked : e.markedType? with
    | none =>
      rw [ofRow_of_none threshold hmarked, ofRow_of_none threshold hmarked,
        drafts_node_of_type? base rfl rfl, drafts_node_of_type? base rfl rfl]
    | some type =>
      rw [ofRow_of_markedType? threshold hmarked, ofRow_of_markedType? threshold hmarked,
        drafts_ofTyped, drafts_ofTyped]
  | loose es =>
    rw [ofRowGroup_loose, ofRowGroup_loose, looseRow, looseRow, drafts_node_of_type? base rfl rfl,
      drafts_node_of_type? base rfl rfl]

theorem draftsAll_rows {es : List Element} (hne : es ≠ []) :
    draftsAll base (rows threshold es) =
      draftsAll base ((Run.runs (·.isRowLike) es).map (ofRowGroup threshold [])) := by
  rw [rows_of_ne_nil threshold hne, draftsAll_eq_flatMap, draftsAll_eq_flatMap, List.flatMap_map]
  nth_rewrite 2 [← map_snd_noteRows (Run.runs (·.isRowLike) es)]
  rw [List.map_map, List.flatMap_map]
  exact List.flatMap_congr fun p _ => drafts_ofRowGroup threshold base p.1 p.2

/-- An element that looks like a row may stand in the place of another one with the same module. -/
theorem draftsAll_rows_replace {e e' : Element} (he : e.isRowLike = true)
    (he' : e'.isRowLike = true)
    (hsame : (ofRow threshold [] e').drafts base = (ofRow threshold [] e).drafts base)
    (front back : List Element) :
    draftsAll base (rows threshold (front ++ e' :: back)) =
      draftsAll base (rows threshold (front ++ e :: back)) := by
  rw [draftsAll_rows _ _ (by simp), draftsAll_rows _ _ (by simp),
    Run.runs_append_cons_of_fits he front back, Run.runs_append_cons_of_fits he' front back,
    List.map_append, List.map_append, List.map_cons, List.map_cons, draftsAll_append,
    draftsAll_append, draftsAll, draftsAll, ofRowGroup_single, ofRowGroup_single, hsame]

/-- Two groups of columns give the same modules, with a column of their own and without. -/
structure SameColumns (g g' : Run Element) : Prop where
  /-- The column is the same. -/
  own : (ofColumnGroup threshold g').drafts base = (ofColumnGroup threshold g).drafts base
  /-- The contents are the same. -/
  contents : draftsAll base (groupContent threshold g') = draftsAll base (groupContent threshold g)

theorem draftsAll_flatMap_congr {α : Type} {f : α → List Plan} {as as' : List α}
    (h : List.Forall₂ (fun a a' => draftsAll base (f a') = draftsAll base (f a)) as as') :
    draftsAll base (as'.flatMap f) = draftsAll base (as.flatMap f) := by
  induction h with
  | nil => rfl
  | cons ha _ ih =>
    rw [List.flatMap_cons, List.flatMap_cons, draftsAll_append, draftsAll_append, ha, ih]

theorem draftsAll_columns_congr {r r' : Element}
    (h : List.Forall₂ (SameColumns threshold base) r.columnRuns r'.columnRuns) :
    draftsAll base (columns threshold r') = draftsAll base (columns threshold r) := by
  have hown {groups groups' : List (Run Element)}
      (h : List.Forall₂ (SameColumns threshold base) groups groups') :
      draftsAll base (groups'.map (ofColumnGroup threshold)) =
        draftsAll base (groups.map (ofColumnGroup threshold)) := by
    rw [List.map_eq_flatMap, List.map_eq_flatMap]
    refine draftsAll_flatMap_congr base (h.imp fun g g' hg => ?_)
    rw [draftsAll, draftsAll, hg.own]
    rfl
  have hlength : r'.columnGroups = r.columnGroups := by
    rw [← Element.length_columnRuns, ← Element.length_columnRuns, h.length_eq]
  -- The groups of a wide row are cut at the same place on both sides.
  by_cases hwide : Layout.maxColumns < r.columnGroups
  · have hrest := List.forall₂_drop (Layout.maxColumns - 1) h
    rw [draftsAll_columns_of_lt threshold base hwide,
      draftsAll_columns_of_lt threshold base (hlength ▸ hwide),
      hown (List.forall₂_take (Layout.maxColumns - 1) h), foldedModule, foldedModule,
      draftsAll_flatMap_congr base (hrest.imp fun g g' hg => hg.contents)]
  · have hnil : r.columnRuns = [] ↔ r'.columnRuns = [] := by
      rw [← List.length_eq_zero_iff, ← List.length_eq_zero_iff, h.length_eq]
    rw [Nat.not_lt] at hwide
    by_cases hruns : r.columnRuns = []
    · rw [columns_of_nil threshold hruns, columns_of_nil threshold (hnil.mp hruns)]
    · rw [columns_of_le threshold hruns hwide,
        columns_of_le threshold (mt hnil.mpr hruns) (hlength ▸ hwide), hown h]

/-- An element that looks like a column may stand in the place of another one with the same module
and the same contents. -/
theorem draftsAll_columns_replace {e e' r r' : Element} {front back : List Element}
    (he : e.isColumnLike = true) (he' : e'.isColumnLike = true)
    (hsame : SameColumns threshold base (.single e) (.single e'))
    (hr : r.contentChildren = front ++ e :: back)
    (hr' : r'.contentChildren = front ++ e' :: back) :
    draftsAll base (columns threshold r') = draftsAll base (columns threshold r) := by
  have hrefl (groups : List (Run Element)) :
      List.Forall₂ (SameColumns threshold base) groups groups :=
    List.forall₂_same.mpr fun _ _ => ⟨rfl, rfl⟩
  refine draftsAll_columns_congr threshold base ?_
  rw [Element.columnRuns, Element.columnRuns, hr, hr', Run.runs_append_cons_of_fits he front back,
    Run.runs_append_cons_of_fits he' front back]
  exact List.rel_append (hrefl _) (.cons hsame (hrefl _))

end Plan

/-! ### Writing a marker -/

namespace Element

/-- The second element is the first one with the marker of a type: it has the same other attributes
in the same order, and the same children. -/
structure MarkedAs (type : ModuleType) (e e' : Element) : Prop where
  /-- The vocabulary stays. -/
  space_eq : e'.tag.space = e.tag.space
  /-- The name stays. -/
  name_eq : e'.tag.name = e.tag.name
  /-- The other attributes stay. -/
  others_eq : e'.tag.attrs.filter (fun a => a.name != markerName) =
    e.tag.attrs.filter fun a => a.name != markerName
  /-- The marker names the type. -/
  marker_eq : e'.attr? markerName = some type.slug
  /-- The children stay. -/
  children_eq : e'.children = e.children

namespace MarkedAs

variable {type : ModuleType} {e e' : Element}

section

variable (h : e.MarkedAs type e')

include h

theorem attr?_eq {name : String} (hname : name ≠ markerName) : e'.attr? name = e.attr? name := by
  have hfind (attrs : List Attr) :
      (attrs.filter fun a => a.name != markerName).find?
        (fun a => a.space = .none && a.name == name) =
          attrs.find? fun a => a.space = .none && a.name == name := by
    rw [List.find?_filter]
    refine congrArg (fun p => attrs.find? p) (funext fun a => ?_)
    by_cases ha : a.name = name
    · simp [ha, hname]
    · simp [ha]
  rw [attr?, attr?, ← hfind e'.tag.attrs, h.others_eq, hfind]

theorem isNotOverridden (hover : e.IsNotOverridden) : e'.IsNotOverridden := by
  intro a ha
  by_cases hname : a.name = markerName
  · rw [hname]
    decide
  · have hmem : a ∈ e'.tag.attrs.filter fun a => a.name != markerName :=
      List.mem_filter.mpr ⟨ha, by simpa using hname⟩
    rw [h.others_eq] at hmem
    exact hover a (List.mem_filter.mp hmem).1

theorem style_eq : e'.style = e.style := by
  rw [style, style, h.attr?_eq (by decide)]

theorem styleAttributes_eq (base : ℤ) : e'.styleAttributes base = e.styleAttributes base := by
  rw [styleAttributes, styleAttributes, h.style_eq]

theorem variantAttributes_eq (base : ℤ) :
    e'.variantAttributes base = e.variantAttributes base := by
  rw [variantAttributes, variantAttributes, h.attr?_eq (by decide), h.attr?_eq (by decide),
    h.attr?_eq (by decide)]

theorem childElements_eq : e'.childElements = e.childElements := by
  rw [childElements, childElements, h.children_eq]

theorem contentChildren_eq : e'.contentChildren = e.contentChildren := by
  rw [contentChildren, contentChildren, h.childElements_eq]

theorem rowLayout_eq (hover : e.IsNotOverridden) : e'.rowLayout = e.rowLayout := by
  have hover' := h.isNotOverridden hover
  unfold rowLayout columnGap? verticalAlign?
  simp only [hover.override?_eq_none, hover'.override?_eq_none, h.style_eq]

theorem columnStructure_eq (hover : e.IsNotOverridden) :
    e'.columnStructure = e.columnStructure := by
  have hover' := h.isNotOverridden hover
  unfold columnStructure
  simp only [hover.override?_eq_none, hover'.override?_eq_none, h.childElements_eq]

theorem finish_eq (hover : e.IsNotOverridden) (base : ℤ) (attrs : Attributes) :
    e'.finish base attrs = e.finish base attrs := by
  rw [finish, finish, h.variantAttributes_eq, hover.overrides_eq_empty,
    (h.isNotOverridden hover).overrides_eq_empty]

theorem attributes_typed_eq (hover : e.IsNotOverridden) {type' : ModuleType}
    (htype : type' = .row ∨ type' = .column) (base : ℤ) (inside : ℕ) :
    (Origin.typed e' type').attributes base inside =
      (Origin.typed e type').attributes base inside := by
  have hdivision (attrs : Attributes) :
      e'.withDivision inside attrs = e.withDivision inside attrs := by
    rw [withDivision, withDivision, divisionFor, divisionFor, h.columnStructure_eq hover]
  rw [Origin.attributes, Origin.attributes, h.finish_eq hover,
    Origin.typedAttributes_eq hover _ _ htype,
    Origin.typedAttributes_eq (h.isNotOverridden hover) _ _ htype, hdivision,
    h.styleAttributes_eq, h.rowLayout_eq hover]

theorem columns_eq (threshold : ℕ) : Plan.columns threshold e' = Plan.columns threshold e := by
  rw [Plan.columns_eq, Plan.columns_eq, h.contentChildren_eq]

theorem draftsAll_columnContent_eq (threshold : ℕ) (base : ℤ) :
    Plan.draftsAll base (Plan.columnContent threshold e') =
      Plan.draftsAll base (Plan.columnContent threshold e) := by
  have hcontent : e'.hasSignificantContent = e.hasSignificantContent := by
    rw [hasSignificantContent, hasSignificantContent, h.childElements_eq, hasDirectText,
      hasDirectText, h.children_eq]
  have hmarkup : e'.innerMarkup = e.innerMarkup := by
    rw [innerMarkup, innerMarkup, h.children_eq]
  have hown : (Plan.node [] (.ownText e') []).drafts base =
      (Plan.node [] (.ownText e) []).drafts base := by
    rw [Plan.drafts_node_of_type? base rfl rfl, Plan.drafts_node_of_type? base rfl rfl,
      Origin.attributes, Origin.attributes, hmarkup]
  rw [Plan.columnContent_eq, Plan.columnContent_eq, h.contentChildren_eq, hcontent]
  split
  · split
    · rw [Plan.draftsAll, hown]
      rfl
    · rfl
  · rfl

/-- The marker does not change the module of an element whose type is told to be that of a row or of
a column. -/
theorem typedModule_eq (hover : e.IsNotOverridden) {type' : ModuleType}
    (htype : type' = .row ∨ type' = .column) (threshold : ℕ) (base : ℤ) :
    Plan.typedModule threshold base e' type' = Plan.typedModule threshold base e type' := by
  have hinside : Plan.draftsAll base (Plan.typedChildren threshold e' type') =
      Plan.draftsAll base (Plan.typedChildren threshold e type') := by
    rcases htype with rfl | rfl
    · rw [Plan.typedChildren_row, Plan.typedChildren_row, h.columns_eq]
    · rw [Plan.typedChildren_column, Plan.typedChildren_column, h.draftsAll_columnContent_eq]
  rw [Plan.typedModule_eq, Plan.typedModule_eq, hinside, h.attributes_typed_eq hover htype]

theorem markedType?_eq (htype : type = .row ∨ type = .column) : e'.markedType? = some type := by
  rw [markedType?, marker?, filledAttr?, h.marker_eq]
  rcases htype with rfl | rfl <;> decide

end

theorem isRowLike (h : e.MarkedAs .row e') : e'.isRowLike = true := by
  have hmarked : e'.isMarkedAs "row" = true := by
    rw [isMarkedAs, h.marker_eq]
    decide
  rw [Element.isRowLike, hmarked, Bool.true_or, Bool.true_or]

theorem isColumnLike (h : e.MarkedAs .column e') : e'.isColumnLike = true := by
  have hmarked : e'.isMarkedAs "column" = true := by
    rw [isMarkedAs, h.marker_eq]
    decide
  rw [Element.isColumnLike, hmarked, Bool.true_or, Bool.true_or, Bool.true_or]

/-- A marked row is the module that the element gives as a row. -/
theorem drafts_ofRow (h : e.MarkedAs .row e') (hover : e.IsNotOverridden) (threshold : ℕ)
    (base : ℤ) (notes : List Note) :
    (Plan.ofRow threshold notes e').drafts base = [Plan.typedModule threshold base e .row] := by
  rw [Plan.ofRow_of_markedType? threshold (h.markedType?_eq (.inl rfl)), Plan.drafts_ofTyped,
    h.typedModule_eq hover (.inl rfl)]

/-- A marked column is the module that the element gives as a column. -/
theorem drafts_ofColumn (h : e.MarkedAs .column e') (hover : e.IsNotOverridden) (threshold : ℕ)
    (base : ℤ) :
    (Plan.ofColumn threshold e').drafts base = [Plan.typedModule threshold base e .column] := by
  rw [Plan.ofColumn_of_markedType? threshold (h.markedType?_eq (.inr rfl)), Plan.drafts_ofTyped,
    h.typedModule_eq hover (.inr rfl)]

theorem sameColumns (h : e.MarkedAs .column e') (hover : e.IsNotOverridden)
    (hmarked : e.markedType? = none) (threshold : ℕ) (base : ℤ) :
    Plan.SameColumns threshold base (.single e) (.single e') := by
  constructor
  · rw [Plan.ofColumnGroup_single, Plan.ofColumnGroup_single, h.drafts_ofColumn hover,
      Plan.drafts_ofColumn threshold base hmarked hover]
  · rw [Plan.groupContent_single, Plan.groupContent_single]
    exact h.draftsAll_columnContent_eq threshold base

end MarkedAs

end Element

/-! ### Sessions -/

namespace Session

/-- The modules that a session builds of a plan, and the session after it. -/
def build (s : Session) (p : Plan) : List PageModule × Session :=
  let (modules, ids) := (p.build s.options.baseFontSize).run s.ids
  (modules, { s with ids := ids })

/-- The modules that a session builds of several plans, and the session after them. -/
def buildAll (s : Session) (ps : List Plan) : List PageModule × Session :=
  let (modules, ids) := (Plan.buildAll s.options.baseFontSize ps).run s.ids
  (modules, { s with ids := ids })

/-- The session makes one and the same module of two plans, and is the same after both. -/
def MakesSame (s : Session) (p q : Plan) : Prop :=
  ∃ m after, s.build p = ([m], after) ∧ s.build q = ([m], after)

theorem build_eq (s : Session) (p : Plan) :
    s.build p = (Draft.numberAll s.ids.token s.ids.count (p.drafts s.options.baseFontSize),
      { s with ids := s.ids.after (Draft.countAll (p.drafts s.options.baseFontSize)) }) := by
  have hrun := Plan.numbers_build s.options.baseFontSize p s.ids
  unfold build
  rw [StateT.run, hrun]

theorem buildAll_congr {s : Session} {ps qs : List Plan}
    (h : Plan.draftsAll s.options.baseFontSize ps = Plan.draftsAll s.options.baseFontSize qs) :
    s.buildAll ps = s.buildAll qs := by
  have hps := Plan.numbers_buildAll s.options.baseFontSize ps s.ids
  have hqs := Plan.numbers_buildAll s.options.baseFontSize qs s.ids
  unfold buildAll
  rw [StateT.run, hps, StateT.run, hqs, h]

theorem makesSame_of_drafts_eq {s : Session} {p q : Plan} {d : Draft}
    (hp : p.drafts s.options.baseFontSize = [d]) (hq : q.drafts s.options.baseFontSize = [d]) :
    s.MakesSame p q := by
  rw [MakesSame, build_eq, build_eq, hp, hq]
  exact ⟨_, _, rfl, rfl⟩

open Plan

/-- **Shapes and markers build the same rows and columns.**  In every state of a session, an element
without a marker and without author overrides gives the same module as a row, or a column, that is
told by its shape and as one of a known type.  So if it looks like a row or a column, the marker of
this type may be written on it: its module stays the same, and so do all that stand beside it. -/
theorem makesSame_of_marker?_eq_none {e : Element} (hmarker : e.marker? = none)
    (hover : e.IsNotOverridden) (s : Session) (threshold : ℕ) (notes : List Note) :
    s.MakesSame (ofRow threshold notes e) (ofTyped threshold notes e .row) ∧
      s.MakesSame (ofColumn threshold e) (ofTyped threshold [] e .column) ∧
      (∀ e', e.MarkedAs .row e' → e.isRowLike = true →
        s.MakesSame (ofRow threshold notes e') (ofRow threshold notes e) ∧
        ∀ front back, s.buildAll (rows threshold (front ++ e' :: back)) =
          s.buildAll (rows threshold (front ++ e :: back))) ∧
      ∀ e', e.MarkedAs .column e' → e.isColumnLike = true →
        s.MakesSame (ofColumn threshold e') (ofColumn threshold e) ∧
        ∀ r r' front back, r.contentChildren = front ++ e :: back →
          r'.contentChildren = front ++ e' :: back →
          s.buildAll (columns threshold r') = s.buildAll (columns threshold r) := by
  have hmarked : e.markedType? = none := by rw [Element.markedType?, hmarker]; rfl
  have hrow := drafts_ofRow threshold s.options.baseFontSize hmarked hover
  have hcolumn := drafts_ofColumn threshold s.options.baseFontSize hmarked hover
  refine ⟨makesSame_of_drafts_eq (hrow notes) (drafts_ofTyped threshold _ notes e .row),
    makesSame_of_drafts_eq hcolumn (drafts_ofTyped threshold _ [] e .column), ?_, ?_⟩
  · intro e' h hlike
    have hrow' := h.drafts_ofRow hover threshold s.options.baseFontSize
    refine ⟨makesSame_of_drafts_eq (hrow' notes) (hrow notes), fun front back => ?_⟩
    exact buildAll_congr (draftsAll_rows_replace threshold _ hlike h.isRowLike
      ((hrow' []).trans (hrow []).symm) front back)
  · intro e' h hlike
    have hcolumn' := h.drafts_ofColumn hover threshold s.options.baseFontSize
    refine ⟨makesSame_of_drafts_eq hcolumn' hcolumn, fun r r' front back hr hr' => ?_⟩
    exact buildAll_congr (draftsAll_columns_replace threshold _ hlike h.isColumnLike
      (h.sameColumns hover hmarked threshold _) hr hr')

/-- A row with a gap, without a marker and with one. -/
def gappedRow (marker : List Attr) : Element :=
  ⟨⟨.html, "div", ⟨.none, "class", "row"⟩ :: marker ++ [⟨.none, "style", "gap: 8px"⟩]⟩, []⟩

theorem makesSame_gappedRow :
    (gappedRow []).marker? = none ∧ (gappedRow []).IsNotOverridden ∧
      (gappedRow []).MarkedAs .row (gappedRow [⟨.none, "data-jtb-module", "row"⟩]) ∧
      (gappedRow []).isRowLike = true ∧
      (start {}).MakesSame (ofRow 50 [] (gappedRow [⟨.none, "data-jtb-module", "row"⟩]))
        (ofRow 50 [] (gappedRow [])) := by
  have hmarker : (gappedRow []).marker? = none := by decide
  have hover : (gappedRow []).IsNotOverridden := by decide
  have hmarked : (gappedRow []).MarkedAs .row (gappedRow [⟨.none, "data-jtb-module", "row"⟩]) :=
    ⟨rfl, rfl, by decide, by decide, rfl⟩
  have hlike : (gappedRow []).isRowLike = true := by decide +kernel
  obtain ⟨-, -, hrow, -⟩ := makesSame_of_marker?_eq_none hmarker hover (start {}) 50 []
  exact ⟨hmarker, hover, hmarked, hlike, (hrow _ hmarked hlike).1⟩

end Session

end PageModules
