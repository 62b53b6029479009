import PageModules.Proofs.Walk.Insertion

/-!
# Rows of more than twelve columns

The children of a row are grouped (`Element.columnRuns`), and each of the first eleven groups makes
a column of its own.  So does the twelfth if it is the last one (`Plan.exists_columns_eq_append`);
if not, the contents of the twelfth group and of those behind it share a column that comes from no
element (`Plan.columns_of_lt`).

That column has no attributes, so the twelfth column loses those that it has where the row ends
behind it (`RowReading.drafts_of_endsAfter`; a row may end behind any column,
`Element.exists_endsAfter`).  It asks for no marker either, so a column with a marker is a module of
the type that the marker names only if it has a column of its own
(`RowReading.drafts_of_markedColumn`).
-/

namespace PageModules

namespace Plan

variable (threshold : ℕ) (base : ℤ) {e : Element}

/-! ### The columns of a row -/

/-- A group has a column of its own if there are at most twelve or if it is one of the first
eleven. -/
theorem exists_columns_eq_append {front back : List (Run Element)} {g : Run Element}
    (h : e.columnRuns = front ++ g :: back)
    (hfew : front.length + 1 < Layout.maxColumns ∨ e.columnGroups ≤ Layout.maxColumns) :
    ∃ rest, columns threshold e =
      front.map (ofColumnGroup threshold) ++ ofColumnGroup threshold g :: rest := by
  by_cases hwide : Layout.maxColumns < e.columnGroups
  · obtain ⟨k, hk⟩ : ∃ k, Layout.maxColumns - 1 = front.length + (k + 1) :=
      ⟨Layout.maxColumns - 1 - (front.length + 1), by omega⟩
    rw [columns_of_lt threshold hwide, h, hk, List.take_length_add_append, List.take_succ_cons,
      List.map_append, List.map_cons, List.append_assoc, List.cons_append]
    exact ⟨_, rfl⟩
  · have hne : e.columnRuns ≠ [] := by simp [h]
    rw [columns_of_le threshold hne (Nat.not_lt.mp hwide), h, List.map_append, List.map_cons]
    exact ⟨_, rfl⟩

/-! ### Their modules -/

theorem draftsAll_append (ps qs : List Plan) :
    draftsAll base (ps ++ qs) = draftsAll base ps ++ draftsAll base qs := by
  rw [draftsAll_eq_flatMap, draftsAll_eq_flatMap, draftsAll_eq_flatMap, List.flatMap_append]

/-- The column of a group is one module.  If that is a column, it holds the contents of the
group. -/
theorem exists_drafts_ofColumnGroup (g : Run Element) :
    ∃ d, (ofColumnGroup threshold g).drafts base = [d] ∧
      (d.type = .column → d.children = draftsAll base (groupContent threshold g)) := by
  cases g with
  | single c =>
    rw [ofColumnGroup_single, groupContent_single]
    cases hmarked : c.markedType? with
    | none =>
      rw [ofColumn_of_none threshold hmarked]
      exact ⟨_, rfl, fun _ => rfl⟩
    | some type =>
      rw [ofColumn_of_markedType? threshold hmarked]
      refine ⟨_, drafts_ofTyped threshold base [] c type, ?_⟩
      rintro (rfl : type = .column)
      rw [typedModule, ofTyped, ← typedChildren_column]
      rfl
  | loose es =>
    rw [ofColumnGroup_loose, groupContent_loose]
    exact ⟨_, rfl, fun _ => rfl⟩

theorem length_draftsAll_ofColumnGroup (groups : List (Run Element)) :
    (draftsAll base (groups.map (ofColumnGroup threshold))).length = groups.length := by
  rw [length_draftsAll base, List.length_map]
  exact List.forall_mem_map.mpr fun g _ => hasModule_ofColumnGroup threshold g

/-- The contents of several groups hold those of each column among them in one piece. -/
theorem draftsAll_flatMap_groupContent (front : List (Run Element)) (c : Element)
    (back : List (Run Element)) :
    draftsAll base ((front ++ .single c :: back).flatMap (groupContent threshold)) =
      draftsAll base (front.flatMap (groupContent threshold)) ++
        draftsAll base (columnContent threshold c) ++
          draftsAll base (back.flatMap (groupContent threshold)) := by
  rw [List.flatMap_append, List.flatMap_cons, draftsAll_append, draftsAll_append,
    ← List.append_assoc, groupContent_eq threshold (.single c), Run.contents]

/-- The column for the contents of several groups. -/
def foldedModule (groups : List (Run Element)) : Draft :=
  .node .column .empty false (draftsAll base (groups.flatMap (groupContent threshold)))

theorem draftsAll_columns_of_lt (h : Layout.maxColumns < e.columnGroups) :
    draftsAll base (columns threshold e) =
      draftsAll base ((e.columnRuns.take (Layout.maxColumns - 1)).map (ofColumnGroup threshold)) ++
        [foldedModule threshold base (e.columnRuns.drop (Layout.maxColumns - 1))] := by
  rw [columns_of_lt threshold h, draftsAll_append]
  rfl

/-- The module of a group that has a column of its own stands where the group stands. -/
theorem getElem?_draftsAll_columns {front back : List (Run Element)} {g : Run Element} {d : Draft}
    (h : e.columnRuns = front ++ g :: back)
    (hfew : front.length + 1 < Layout.maxColumns ∨ e.columnGroups ≤ Layout.maxColumns)
    (hd : (ofColumnGroup threshold g).drafts base = [d]) :
    (draftsAll base (columns threshold e))[front.length]? = some d := by
  obtain ⟨rest, hcolumns⟩ := exists_columns_eq_append threshold h hfew
  rw [hcolumns, draftsAll_append, draftsAll, hd,
    ← length_draftsAll_ofColumnGroup threshold base front, List.getElem?_append_right le_rfl,
    Nat.sub_self]
  rfl

/-- The other groups share the twelfth column. -/
theorem getElem?_draftsAll_columns_of_lt (h : Layout.maxColumns < e.columnGroups) :
    (draftsAll base (columns threshold e))[Layout.maxColumns - 1]? =
      some (foldedModule threshold base (e.columnRuns.drop (Layout.maxColumns - 1))) := by
  have hleft := length_draftsAll_ofColumnGroup threshold base
    (e.columnRuns.take (Layout.maxColumns - 1))
  rw [List.length_take_of_le (by rw [e.length_columnRuns]; omega)] at hleft
  rw [draftsAll_columns_of_lt threshold base h, List.getElem?_append_right hleft.le, hleft,
    Nat.sub_self]
  rfl

/-- Nothing in a column is a module of the column itself. -/
theorem origin_ne_typed_of_mem_columnContent {c : Element} {q : Plan}
    (hq : q ∈ partsAll (columnContent threshold c)) (type : ModuleType) :
    q.origin ≠ .typed c type := by
  rw [columnContent_eq] at hq
  split at hq
  · -- A column without elements has no more than its own text.
    split at hq
    · obtain rfl : q = node [] (.ownText c) [] := by simpa [partsAll, parts] using hq
      simp
    · simp [partsAll] at hq
  · -- What is made of the children is made of elements smaller than the column.
    obtain ⟨p, hp, hqp⟩ := mem_partsAll_iff.mp hq
    obtain ⟨child, hchild, rfl⟩ := List.mem_map.mp hp
    have hscope : IsClosed fun x => x.size < c.size :=
      fun x hx y hy => (Element.size_lt_of_mem_contentChildren hy).trans hx
    have hsmaller : (Task.content child).BuildsIn threshold fun x => x.size < c.size :=
      List.forall_mem_singleton.mpr (Element.size_lt_of_mem_contentChildren hchild)
    have hbuilt := isBuilt_of_mem_parts_plans hscope hsmaller
      (mem_partsAll_iff.mpr ⟨_, List.mem_singleton_self _, hqp⟩)
    intro horigin
    cases hbuilt with
    | typed hsize _ =>
      cases horigin
      exact absurd hsize (lt_irrefl _)
    | _ => cases horigin

end Plan

/-! ### The end of a row -/

/-- The second element is the first one up to the end of so many groups of its children. -/
structure Element.EndsAfter (e : Element) (n : ℕ) (e' : Element) : Prop where
  /-- The tag stays as it is. -/
  tag_eq : e'.tag = e.tag
  /-- The children stand at the front of those that there were. -/
  children : e'.children <+: e.children
  /-- They are the first groups. -/
  columnRuns_eq : e'.columnRuns = e.columnRuns.take n

namespace Element

/-- How many columns elements make. -/
def countColumns (es : List Element) : ℕ := (Run.runs (·.isColumnLike) es).length

/-- An element may end behind any group of its children. -/
theorem exists_endsAfter (e : Element) (n : ℕ) : ∃ e', e.EndsAfter n e' := by
  obtain ⟨front, hfront, hruns⟩ := Run.exists_runs_eq_take (·.isColumnLike) e.contentChildren n
  obtain ⟨elements, helements, rfl⟩ := List.prefix_filter_iff.mp hfront
  obtain ⟨children, hchildren, rfl⟩ := List.prefix_filterMap_iff.mp helements
  exact ⟨⟨e.tag, children⟩, rfl, hchildren, hruns⟩

theorem EndsAfter.columnGroups_eq {e e' : Element} {n : ℕ} (h : e.EndsAfter n e')
    (hn : n ≤ e.columnGroups) : e'.columnGroups = n := by
  rw [← length_columnRuns] at hn ⊢
  rw [h.columnRuns_eq, List.length_take_of_le hn]

/-! ### Rows of empty columns -/

/-- A column with further attributes and nothing inside. -/
def emptyColumn (attrs : List Attr) : Element :=
  ⟨⟨.html, "div", ⟨.none, "class", "col"⟩ :: attrs⟩, []⟩

/-- A row of columns without anything inside. -/
def rowOf (columns : List (List Attr)) : Element :=
  ⟨⟨.html, "div", [⟨.none, "class", "row"⟩]⟩, (columns.map emptyColumn).map toNode⟩

theorem contentChildren_rowOf (columns : List (List Attr)) :
    (rowOf columns).contentChildren = columns.map emptyColumn := by
  have htag : skippedTags.contains (emptyColumn []).tagName = false := by decide
  have hplain : (plain "div" (columns.map emptyColumn)).contentChildren = columns.map emptyColumn :=
    contentChildren_plain (List.forall_mem_map.mpr fun _ _ => htag)
  exact hplain

theorem isColumnLike_emptyColumn (attrs : List Attr) : (emptyColumn attrs).isColumnLike = true := by
  have hclass : Layout.columnClass.isIn (emptyColumn []).lowerClass.toList = true := by decide
  have hclass' : Layout.columnClass.isIn (emptyColumn attrs).lowerClass.toList = true := hclass
  rw [isColumnLike, hclass', Bool.or_true, Bool.true_or, Bool.true_or]

theorem columnRuns_rowOf (columns : List (List Attr)) :
    (rowOf columns).columnRuns = columns.map fun attrs => .single (emptyColumn attrs) := by
  rw [columnRuns, contentChildren_rowOf, Run.runs_of_forall_fits, List.map_map]
  · rfl
  · exact List.forall_mem_map.mpr fun attrs _ => isColumnLike_emptyColumn attrs

theorem columnGroups_rowOf (columns : List (List Attr)) :
    (rowOf columns).columnGroups = columns.length := by
  rw [← length_columnRuns, columnRuns_rowOf, List.length_map]

/-- A style with padding. -/
def padding : List Attr := [⟨.none, "style", "padding-top: 5px"⟩]

/-- Twelve empty columns of which the last one has padding. -/
def paddedColumns : List (List Attr) := List.replicate 11 [] ++ [padding]

/-- A row that ends behind its twelfth column. -/
def shortRow : Element := rowOf paddedColumns

/-- The same row with a thirteenth column. -/
def paddedRow : Element := rowOf (paddedColumns ++ [[]])

theorem endsAfter_shortRow : paddedRow.EndsAfter 12 shortRow := by
  refine ⟨rfl, ?_, ?_⟩
  · exact (List.prefix_append paddedColumns [[]]).map _ |>.map _
  · rw [shortRow, paddedRow, columnRuns_rowOf, columnRuns_rowOf, ← List.map_take]
    rfl

/-- The marker of a divider. -/
def dividerMark : List Attr := [⟨.none, "data-jtb-module", "divider"⟩]

/-- A column that is marked as a divider. -/
def dividerColumn : Element := emptyColumn dividerMark

/-- A row whose only column is marked as a divider. -/
def dividerRow : Element := rowOf [dividerMark]

/-- A row with twelve other columns in front of the one that is marked as a divider. -/
def lateDividerRow : Element := rowOf (List.replicate 12 [] ++ [dividerMark])

theorem contentChildren_lateDividerRow :
    lateDividerRow.contentChildren = List.replicate 12 (emptyColumn []) ++ dividerColumn :: [] :=
  contentChildren_rowOf _

theorem markedType?_dividerColumn : dividerColumn.markedType? = some .divider := by decide

theorem columnContent_emptyColumn (threshold : ℕ) (attrs : List Attr) :
    Plan.columnContent threshold (emptyColumn attrs) = [] := by
  rw [Plan.columnContent_eq]
  rfl

theorem ofColumnGroup_emptyColumn (threshold : ℕ) {attrs : List Attr}
    (hmark : (emptyColumn attrs).markedType? = none) :
    Plan.ofColumnGroup threshold (.single (emptyColumn attrs)) =
      .node [] (.shapedColumn (emptyColumn attrs)) [] := by
  rw [Plan.ofColumnGroup_single, Plan.ofColumn_of_none threshold hmark, columnContent_emptyColumn]

end Element

namespace RowReading

open Plan

variable {e e' : Element} (way : RowReading)

/-- **Further columns take the attributes of the twelfth**: a row of more than twelve columns and
the row that ends behind the twelfth have the same modules for the first eleven.  The twelfth is a
column without attributes; if it was a column, it keeps what it holds, and what the further ones
hold comes behind.  So the attributes of the twelve stay exactly if the twelfth has none. -/
theorem drafts_of_endsAfter (happlies : way.Applies e)
    (hwide : Layout.maxColumns < e.columnGroups) (h : e.EndsAfter Layout.maxColumns e')
    (threshold : ℕ) (notes : List Note) (base : ℤ) :
    way.Applies e' ∧ ∃ (m m' : Draft) (left : List Draft) (last last' : Draft),
      (way.plan threshold notes e).drafts base = [m] ∧
      (way.plan threshold notes e').drafts base = [m'] ∧
      m.children = left ++ [last] ∧ m'.children = left ++ [last'] ∧
      left.length + 1 = Layout.maxColumns ∧ last.type = .column ∧ last.attrs = .empty ∧
      (last'.type = .column → last.children = last'.children ++
        draftsAll base ((e.columnRuns.drop Layout.maxColumns).flatMap (groupContent threshold))) ∧
      (m.children.map Draft.attrs = m'.children.map Draft.attrs ↔ last'.attrs = .empty) := by
  have happlies' := way.applies_of_tag_eq happlies h.tag_eq
  have hlength : Layout.maxColumns - 1 < e.columnRuns.length := by
    rw [e.length_columnRuns]
    omega
  set front := e.columnRuns.take (Layout.maxColumns - 1) with hfront
  set g := e.columnRuns[Layout.maxColumns - 1] with hg
  set left := draftsAll base (front.map (ofColumnGroup threshold)) with hleft
  have hdrop : e.columnRuns.drop (Layout.maxColumns - 1) =
      g :: e.columnRuns.drop Layout.maxColumns := List.drop_eq_getElem_cons hlength
  have htake : e'.columnRuns = front ++ [g] :=
    h.columnRuns_eq.trans (List.take_succ_eq_append_getElem hlength)
  obtain ⟨last', hlast', hcontents⟩ := exists_drafts_ofColumnGroup threshold base g
  have hchildren : draftsAll base (columns threshold e) =
      left ++ [foldedModule threshold base (g :: e.columnRuns.drop Layout.maxColumns)] := by
    rw [draftsAll_columns_of_lt threshold base hwide, hdrop]
  have hchildren' : draftsAll base (columns threshold e') = left ++ [last'] := by
    have hne : e'.columnRuns ≠ [] := by simp [htake]
    have hle : e'.columnGroups ≤ Layout.maxColumns := (h.columnGroups_eq hwide.le).le
    rw [columns_of_le threshold hne hle, htake, List.map_append, draftsAll_append,
      List.map_singleton, draftsAll, hlast']
    rfl
  refine ⟨happlies', _, _, left, _, last', way.drafts_plan happlies threshold notes base,
    way.drafts_plan happlies' threshold notes base, hchildren, hchildren', ?_, rfl, rfl, ?_, ?_⟩
  · rw [hleft, length_draftsAll_ofColumnGroup, hfront, List.length_take_of_le hlength.le]
    rfl
  · intro htype
    rw [hcontents htype, ← draftsAll_append, ← List.flatMap_cons]
    rfl
  · change (draftsAll base (columns threshold e)).map Draft.attrs =
      (draftsAll base (columns threshold e')).map Draft.attrs ↔ _
    rw [hchildren, hchildren', List.map_append, List.map_append, List.append_cancel_left_eq,
      List.map_singleton, List.map_singleton, List.cons_eq_cons, and_iff_left rfl, eq_comm]
    rfl

/-- The twelfth column of a row of twelve has padding, and a thirteenth one takes it away. -/
theorem drafts_of_endsAfter_paddedRow :
    shaped.Applies .paddedRow ∧ Element.paddedRow.columnGroups = 13 ∧
      Element.paddedRow.EndsAfter 12 .shortRow ∧
      ∃ m m', (shaped.plan 50 [] .paddedRow).drafts 16 = [m] ∧
        (shaped.plan 50 [] .shortRow).drafts 16 = [m'] ∧
        m.children.dropLast = m'.children.dropLast ∧
        (m.children.getLast?.map Draft.attrs) = some .empty := by
  have happlies : shaped.Applies .paddedRow := ⟨by decide, by decide⟩
  have hgroups : Element.paddedRow.columnGroups = 13 := Element.columnGroups_rowOf _
  have hends := Element.endsAfter_shortRow
  obtain ⟨-, m, m', left, last, last', hm, hm', hchildren, hchildren', -, -, hattrs, -⟩ :=
    drafts_of_endsAfter shaped happlies (by rw [hgroups]; decide) hends 50 [] 16
  refine ⟨happlies, hgroups, hends, m, m', hm, hm', ?_, ?_⟩
  · rw [hchildren, hchildren', List.dropLast_concat, List.dropLast_concat]
  · rw [hchildren, List.getLast?_concat, Option.map_some, hattrs]

/-- The padding of the twelfth column is lost behind a thirteenth one. -/
theorem find?_padding_paddedRow :
    Element.paddedRow.EndsAfter 12 .shortRow ∧ shaped.Applies .paddedRow ∧
      shaped.Applies .shortRow ∧
      ∃ m m', (shaped.plan 50 [] .paddedRow).drafts 16 = [m] ∧
        (shaped.plan 50 [] .shortRow).drafts 16 = [m'] ∧
        (m'.children[11]?.bind (·.attrs.find? "padding_top")).isSome = true ∧
        m.children[11]?.bind (·.attrs.find? "padding_top") = none := by
  have happlies : shaped.Applies .paddedRow := ⟨by decide, by decide⟩
  have hends := Element.endsAfter_shortRow
  have happlies' := shaped.applies_of_tag_eq happlies hends.tag_eq
  refine ⟨hends, happlies, happlies', _, _, shaped.drafts_plan happlies 50 [] 16,
    shaped.drafts_plan happlies' 50 [] 16, ?_, ?_⟩
  · have hgroups : Element.shortRow.columnGroups = 12 := Element.columnGroups_rowOf _
    have hruns : Element.shortRow.columnRuns = List.replicate 11 (.single (.emptyColumn [])) ++
        .single (.emptyColumn Element.padding) :: [] := Element.columnRuns_rowOf _
    have hmodule : (ofColumnGroup 50 (.single (.emptyColumn Element.padding))).drafts 16 =
        [(node [] (.shapedColumn (.emptyColumn Element.padding)) []).moduleOf 16 .column] := by
      rw [Element.ofColumnGroup_emptyColumn 50 (by decide)]
      rfl
    change (((draftsAll 16 (columns 50 Element.shortRow))[11]?).bind _).isSome = _
    have hlast := getElem?_draftsAll_columns 50 16 hruns (Or.inr hgroups.le) hmodule
    rw [List.length_replicate] at hlast
    rw [hlast]
    decide
  · have hgroups : Element.paddedRow.columnGroups = 13 := Element.columnGroups_rowOf _
    have hlast := getElem?_draftsAll_columns_of_lt (e := .paddedRow) 50 16
      (by rw [hgroups]; decide)
    change ((draftsAll 16 (columns 50 Element.paddedRow))[Layout.maxColumns - 1]?).bind _ = _
    rw [hlast]
    rfl

/-- **A marked column needs a column of its own**: the module of the type that the marker names
stands in the row where the column stands, if the row has at most twelve columns or less than eleven
stand in front.  Behind that, what is in the column joins the twelfth one, and none of it is a
module of the column itself. -/
theorem drafts_of_markedColumn (happlies : way.Applies e) {before after : List Element}
    {c : Element} {type : ModuleType} (hchildren : e.contentChildren = before ++ c :: after)
    (hcolumn : c.isColumnLike = true) (hmark : c.markedType? = some type)
    (threshold : ℕ) (notes : List Note) (base : ℤ) :
    ∃ m, (way.plan threshold notes e).drafts base = [m] ∧
      (Element.countColumns before + 1 < Layout.maxColumns ∨ e.columnGroups ≤ Layout.maxColumns →
        m.children[Element.countColumns before]? = some (typedModule threshold base c type)) ∧
      (Layout.maxColumns ≤ Element.countColumns before + 1 ∧ Layout.maxColumns < e.columnGroups →
        ∃ front back, m.children[Layout.maxColumns - 1]? =
          some (.node .column .empty false
            (front ++ draftsAll base (columnContent threshold c) ++ back))) ∧
      ∀ q ∈ partsAll (columnContent threshold c), q.origin ≠ .typed c type := by
  have hruns : e.columnRuns = Run.runs (·.isColumnLike) before ++
      .single c :: Run.runs (·.isColumnLike) after := by
    rw [Element.columnRuns, hchildren]
    exact Run.runs_append_cons_of_fits hcolumn before after
  refine ⟨_, way.drafts_plan happlies threshold notes base, ?_, ?_, ?_⟩
  · intro hfew
    refine getElem?_draftsAll_columns threshold base hruns hfew ?_
    rw [ofColumnGroup_single, ofColumn_of_markedType? threshold hmark]
    exact drafts_ofTyped threshold base [] c type
  · rintro ⟨hbehind, hwide⟩
    have hlast := getElem?_draftsAll_columns_of_lt threshold base hwide
    rw [foldedModule, hruns, List.drop_append_of_le_length (Nat.sub_le_of_le_add hbehind),
      draftsAll_flatMap_groupContent] at hlast
    exact ⟨_, _, hlast⟩
  · intro q hq
    exact origin_ne_typed_of_mem_columnContent threshold hq type

/-- A column that is marked as a divider is one where it stands alone; behind twelve others it is
part of a twelfth column. -/
theorem drafts_of_markedColumn_dividerRow :
    (shaped.Applies .dividerRow ∧ ∃ m, (shaped.plan 50 [] .dividerRow).drafts 16 = [m] ∧
      m.children[0]? = some (typedModule 50 16 .dividerColumn .divider)) ∧
    shaped.Applies .lateDividerRow ∧ ∃ m, (shaped.plan 50 [] .lateDividerRow).drafts 16 = [m] ∧
      m.children[11]?.map Draft.type = some .column := by
  have hcolumn := Element.isColumnLike_emptyColumn Element.dividerMark
  have hmark := Element.markedType?_dividerColumn
  have happlies : shaped.Applies .dividerRow := ⟨by decide, by decide⟩
  have hlate : shaped.Applies .lateDividerRow := shaped.applies_of_tag_eq happlies rfl
  refine ⟨⟨happlies, ?_⟩, hlate, ?_⟩
  · have hchildren : Element.dividerRow.contentChildren = [] ++ Element.dividerColumn :: [] :=
      Element.contentChildren_rowOf _
    obtain ⟨m, hm, halone, -⟩ :=
      drafts_of_markedColumn shaped happlies hchildren hcolumn hmark 50 [] 16
    exact ⟨m, hm, halone (Or.inl (by decide))⟩
  · obtain ⟨m, hm, -, hbehind, -⟩ := drafts_of_markedColumn shaped hlate
      Element.contentChildren_lateDividerRow hcolumn hmark 50 [] 16
    have hcount : Element.countColumns (List.replicate 12 (.emptyColumn [])) = 12 := by
      decide
    have hgroups : Element.lateDividerRow.columnGroups = 13 := Element.columnGroups_rowOf _
    obtain ⟨front, back, hlast⟩ := hbehind (by rw [hcount, hgroups]; decide)
    refine ⟨m, hm, ?_⟩
    change m.children[Layout.maxColumns - 1]?.map Draft.type = _
    rw [hlast]
    rfl

/-- Behind twelve other columns, the column that is marked as a divider makes no divider. -/
theorem not_mem_parts_lateDividerRow :
    shaped.Applies .lateDividerRow ∧
      Element.dividerColumn ∈ Element.lateDividerRow.contentChildren ∧
      Element.dividerColumn.isColumnLike = true ∧
      Element.dividerColumn.markedType? = some .divider ∧
      ∀ d ∈ Draft.partsAll ((shaped.plan 50 [] .lateDividerRow).drafts 16), d.type ≠ .divider := by
  have hmem : Element.dividerColumn ∈ Element.lateDividerRow.contentChildren := by
    rw [Element.contentChildren_lateDividerRow]
    simp
  have hgroups : Element.lateDividerRow.columnGroups = 13 := Element.columnGroups_rowOf _
  have hcolumns : columns 50 .lateDividerRow =
      List.replicate 11 (node [] (.shapedColumn (.emptyColumn [])) []) ++
        [looseColumn [.folded 2] []] := by
    have hfront : Element.lateDividerRow.columnRuns.take (Layout.maxColumns - 1) =
        List.replicate 11 (.single (.emptyColumn [])) := by
      rw [Element.lateDividerRow, Element.columnRuns_rowOf]
      rfl
    have hback : Element.lateDividerRow.columnRuns.drop (Layout.maxColumns - 1) =
        [.single (.emptyColumn []), .single .dividerColumn] := by
      rw [Element.lateDividerRow, Element.columnRuns_rowOf]
      rfl
    have hinside : [Run.single (.emptyColumn []), .single .dividerColumn].flatMap
        (groupContent 50) = [] := by
      simp only [List.flatMap_cons, List.flatMap_nil, groupContent_eq, Run.contents,
        Element.dividerColumn, Element.columnContent_emptyColumn, List.append_nil]
    rw [columns_of_lt 50 (by rw [hgroups]; decide), hgroups, hfront, hback, hinside,
      List.map_replicate, Element.ofColumnGroup_emptyColumn 50 (by decide)]
    rfl
  refine ⟨⟨by decide, by decide⟩, hmem, Element.isColumnLike_emptyColumn _,
    Element.markedType?_dividerColumn, ?_⟩
  intro d hd
  obtain ⟨q, hq, hqd⟩ := Draft.exists_plan_of_mem_parts 16 _ d hd
  have htype := (Draft.eq_of_ownModule? hqd).1
  have hmark : Element.lateDividerRow.markedType? = none := by decide
  rw [plan, ofRow_of_none 50 hmark, hcolumns, parts, List.mem_cons, mem_partsAll_iff] at hq
  intro hdivider
  rw [hdivider] at htype
  rcases hq with rfl | ⟨p, hp, hqp⟩
  · cases htype
  · rw [List.mem_append, List.mem_replicate, List.mem_singleton] at hp
    rcases hp with ⟨-, rfl⟩ | rfl
    all_goals
      obtain rfl := List.mem_singleton.mp hqp
      cases htype

end RowReading

end PageModules
