import PageModules.Proofs.Catalog.Frame
import PageModules.Proofs.Walk.Runs
import PageModules.Proofs.Walk.Draft

/-!
# Plans and their modules

The functions that make plans, without the memberships that their recursion carries, and what the
modules of a plan are: none or one (`toList_module?`), around the modules of the inner plans or, for
an element of no type, in their place (`drafts_eq`).
-/

namespace PageModules

namespace Origin

/-- Whether a module comes from an element of no type around others. -/
def isWrapper : Origin → Bool
  | wrapper _ => true
  | _ => false

end Origin

namespace Element

/-- How many groups the children of a row make: those that look like columns, and the longest pieces
of others between them. -/
def columnGroups (e : Element) : ℕ :=
  (e.contentChildren.splitBy fun a b => !a.isColumnLike && !b.isColumnLike).length

/-- The groups of the children of a row: those that look like columns stand alone, the others in the
longest pieces between them. -/
def columnRuns (e : Element) : List (Run Element) :=
  Run.runs (·.isColumnLike) e.contentChildren

theorem length_columnRuns (e : Element) : e.columnRuns.length = e.columnGroups := by
  rw [columnRuns, columnGroups, ← Run.map_members_runs, List.length_map]

/-- How many columns a row of the children of an element has: one for each group, but at least one
and at most twelve. -/
def rowWidth (e : Element) : ℕ := min (max e.columnGroups 1) Layout.maxColumns

/-- The elements that a section divides into rows: the children of an element that looks like a
section, or the element itself. -/
def sectionParts (e : Element) : List Element :=
  if e.isSectionLike then e.contentChildren else [e]

end Element

namespace Plan

/-- Where the module of a plan comes from. -/
def origin : Plan → Origin
  | node _ origin _ => origin

/-- The plans inside. -/
def inner : Plan → List Plan
  | node _ _ children => children

@[simp] theorem origin_node (notes : List Note) (o : Origin) (children : List Plan) :
    (node notes o children).origin = o := rfl

@[simp] theorem inner_node (notes : List Note) (o : Origin) (children : List Plan) :
    (node notes o children).inner = children := rfl

/-! ### Parts -/

mutual

/-- The plans of a plan at every depth, each in front of those inside of it. -/
def parts : Plan → List Plan
  | node notes origin children => node notes origin children :: partsAll children

/-- The plans of several plans at every depth. -/
def partsAll : List Plan → List Plan
  | [] => []
  | p :: rest => parts p ++ partsAll rest

end

theorem mem_parts_self (p : Plan) : p ∈ p.parts := by
  cases p
  exact List.mem_cons_self

theorem mem_partsAll_iff {q : Plan} {ps : List Plan} :
    q ∈ partsAll ps ↔ ∃ p ∈ ps, q ∈ p.parts := by
  induction ps with
  | nil => simp [partsAll]
  | cons p rest ih => simp [partsAll, ih]

variable (threshold : Nat)

/-! ### Contents -/

theorem ofContent_of_markedType? {e : Element} {type : ModuleType}
    (h : e.markedType? = some type) : ofContent threshold e = ofTyped threshold [] e type := by
  rw [ofContent, h]

theorem ofContent_of_accepted? {threshold : Nat} {e : Element} {r : Recognition}
    (hmarked : e.markedType? = none) (hr : accepted? threshold e = some r) :
    ofContent threshold e = ofRecognition e r := by
  rw [ofContent, hmarked]
  simp only [hr]

/-- An element that is not accepted as a component has the type that it suggests. -/
theorem ofContent_of_likelyType? {threshold : Nat} {e : Element} {type : ModuleType}
    (hmarked : e.markedType? = none) (haccepted : accepted? threshold e = none)
    (htype : e.likelyType? = some type) :
    ofContent threshold e = ofTyped threshold (recognitionNotes e ++ [mappingNote e]) e type := by
  rw [ofContent, hmarked]
  simp only [haccepted, htype]

/-- An element of no type is text, if there is any. -/
theorem ofContent_of_none {threshold : Nat} {e : Element} (hmarked : e.markedType? = none)
    (haccepted : accepted? threshold e = none) (htype : e.likelyType? = none) :
    ofContent threshold e =
      if e.text.isEmpty then node (recognitionNotes e ++ [mappingNote e]) .dropped []
      else node (recognitionNotes e ++ [mappingNote e]) (.text e) [] := by
  rw [ofContent, hmarked]
  simp only [haccepted, htype]

/-! ### Elements of a known type -/

theorem typedChildren_of_child {type child : ModuleType} (h : type.child? = some child)
    (e : Element) : typedChildren threshold e type = linkedChildren e child := by
  unfold typedChildren
  rw [h]

theorem typedChildren_pageSection (e : Element) :
    typedChildren threshold e .pageSection = rows threshold e.contentChildren := by
  unfold typedChildren
  rfl

theorem typedChildren_row (e : Element) :
    typedChildren threshold e .row = columns threshold e := by
  unfold typedChildren
  rfl

theorem typedChildren_column (e : Element) :
    typedChildren threshold e .column = columnContent threshold e := by
  unfold typedChildren
  rfl

/-- Contents without children of a type of their own have nothing inside. -/
theorem typedChildren_of_leaf {type : ModuleType} (hchild : type.child? = none)
    (hframe : type.isFrame = false) (e : Element) : typedChildren threshold e type = [] := by
  unfold typedChildren
  rw [hchild]
  cases type <;> first | rfl | cases hframe

/-! ### Rows and columns -/

theorem columnContent_eq (e : Element) :
    columnContent threshold e =
      if e.contentChildren = [] then
        if e.hasSignificantContent then [node [] (.ownText e) []] else []
      else e.contentChildren.map (ofContent threshold) := by
  rw [columnContent]
  simp

theorem columnContent_of_nil {e : Element} (h : e.contentChildren = []) :
    columnContent threshold e =
      if e.hasSignificantContent then [node [] (.ownText e) []] else [] := by
  rw [columnContent_eq, if_pos h]

theorem columnContent_of_ne_nil {e : Element} (h : e.contentChildren ≠ []) :
    columnContent threshold e = e.contentChildren.map (ofContent threshold) := by
  rw [columnContent_eq, if_neg h]

theorem ofColumn_of_markedType? {e : Element} {type : ModuleType}
    (h : e.markedType? = some type) : ofColumn threshold e = ofTyped threshold [] e type := by
  rw [ofColumn, h]

theorem ofColumn_of_none {e : Element} (h : e.markedType? = none) :
    ofColumn threshold e = node [] (.shapedColumn e) (columnContent threshold e) := by
  rw [ofColumn, h]

theorem ofColumnGroup_single (e : Element) :
    ofColumnGroup threshold (.single e) = ofColumn threshold e := by
  rw [ofColumnGroup]

theorem ofColumnGroup_loose (es : List Element) :
    ofColumnGroup threshold (.loose es) = looseColumn [] (es.map (ofContent threshold)) := by
  rw [ofColumnGroup]
  simp

theorem ofRow_of_markedType? {e : Element} {type : ModuleType} (h : e.markedType? = some type)
    (notes : List Note) : ofRow threshold notes e = ofTyped threshold notes e type := by
  rw [ofRow, h]

theorem ofRow_of_none {e : Element} (h : e.markedType? = none) (notes : List Note) :
    ofRow threshold notes e =
      node (notes ++ columnNotes e) (.shapedRow e) (columns threshold e) := by
  rw [ofRow, h]

theorem ofRowGroup_single (notes : List Note) (e : Element) :
    ofRowGroup threshold notes (.single e) = ofRow threshold notes e := by
  rw [ofRowGroup]

theorem ofRowGroup_loose (notes : List Note) (es : List Element) :
    ofRowGroup threshold notes (.loose es) = looseRow notes (es.map (ofContent threshold)) := by
  rw [ofRowGroup]
  simp

theorem groupContent_single (e : Element) :
    groupContent threshold (.single e) = columnContent threshold e := by
  rw [groupContent]

theorem groupContent_loose (es : List Element) :
    groupContent threshold (.loose es) = es.map (ofContent threshold) := by
  rw [groupContent]
  simp

theorem groupContent_eq (g : Run Element) :
    groupContent threshold g =
      g.contents (columnContent threshold) fun e => [ofContent threshold e] := by
  cases g with
  | single e => rw [groupContent_single, Run.contents]
  | loose es => rw [groupContent_loose, Run.contents, ← List.map_eq_flatMap]

/-- The notes on rows only stand beside the groups. -/
theorem map_snd_noteRows (groups : List (Run Element)) :
    (noteRows groups).map Prod.snd = groups := by
  induction groups using noteRows.induct with
  | case1 => rfl
  | case2 es e rest ih => simp [noteRows, ih]
  | case3 e rest ih => simp [noteRows, ih]
  | case4 es rest hne ih =>
    rw [noteRows, List.map_cons, ih]
    exact hne

theorem noteRows_runs_eq_nil_iff (es : List Element) :
    noteRows (Run.runs (·.isRowLike) es) = [] ↔ es = [] := by
  rw [← List.map_eq_nil_iff (f := Prod.snd), map_snd_noteRows, Run.runs_eq_nil_iff]

theorem rows_eq (es : List Element) :
    rows threshold es =
      if es = [] then [looseRow [] []]
      else (noteRows (Run.runs (·.isRowLike) es)).map fun p => ofRowGroup threshold p.1 p.2 := by
  have hnil : (noteRows (Run.runs (·.isRowLike) es)).isEmpty = true ↔ es = [] :=
    List.isEmpty_iff.trans (noteRows_runs_eq_nil_iff es)
  rw [rows]
  by_cases h : es = []
  · rw [if_pos (hnil.mpr h), if_pos h]
  · rw [if_neg (mt hnil.mp h), if_neg h]
    exact List.attach_map_val (f := fun p : List Note × Run Element => ofRowGroup threshold p.1 p.2)

theorem rows_of_ne_nil {es : List Element} (h : es ≠ []) :
    rows threshold es =
      (noteRows (Run.runs (·.isRowLike) es)).map fun p => ofRowGroup threshold p.1 p.2 := by
  rw [rows_eq, if_neg h]

theorem columns_eq (e : Element) :
    columns threshold e =
      let groups := Run.runs (·.isColumnLike) e.contentChildren
      if groups = [] then [looseColumn [] []]
      else if groups.length ≤ Layout.maxColumns then groups.map (ofColumnGroup threshold)
      else
        (groups.take (Layout.maxColumns - 1)).map (ofColumnGroup threshold) ++
          [looseColumn [.folded (groups.length - (Layout.maxColumns - 1))]
            ((groups.drop (Layout.maxColumns - 1)).flatMap (groupContent threshold))] := by
  rw [columns]
  simp only [List.isEmpty_iff]
  set groups := Run.runs (·.isColumnLike) e.contentChildren with hgroups
  -- The memberships go along through `take` and `drop`.
  have htake (k : ℕ) : (groups.attach.take k).map Subtype.val = groups.take k := by
    rw [List.map_take, List.attach_map_subtype_val]
  have hdrop (k : ℕ) : (groups.attach.drop k).map Subtype.val = groups.drop k := by
    rw [List.map_drop, List.attach_map_subtype_val]
  split
  · rfl
  · split
    · exact List.attach_map_val (f := ofColumnGroup threshold)
    · rw [← htake, ← hdrop, List.map_map, List.flatMap_map]
      rfl

theorem columns_of_nil {e : Element} (h : e.columnRuns = []) :
    columns threshold e = [looseColumn [] []] := by
  rw [columns_eq]
  exact if_pos h

/-- A row of up to twelve groups has a column for each of them. -/
theorem columns_of_le {e : Element} (hne : e.columnRuns ≠ [])
    (h : e.columnGroups ≤ Layout.maxColumns) :
    columns threshold e = e.columnRuns.map (ofColumnGroup threshold) := by
  rw [← e.length_columnRuns] at h
  rw [columns_eq]
  dsimp only
  rw [← Element.columnRuns, if_neg hne, if_pos h]

/-- A row of more than twelve groups has a column for each of the first eleven and one for the
contents of the others. -/
theorem columns_of_lt {e : Element} (h : Layout.maxColumns < e.columnGroups) :
    columns threshold e =
      (e.columnRuns.take (Layout.maxColumns - 1)).map (ofColumnGroup threshold) ++
        [looseColumn [.folded (e.columnGroups - (Layout.maxColumns - 1))]
          ((e.columnRuns.drop (Layout.maxColumns - 1)).flatMap (groupContent threshold))] := by
  rw [← e.length_columnRuns] at h ⊢
  have hne : e.columnRuns ≠ [] := List.length_pos_iff.mp (Nat.zero_lt_of_lt h)
  rw [columns_eq]
  dsimp only
  rw [← Element.columnRuns, if_neg hne, if_neg (Nat.not_le.mpr h)]

/-- A row has a column for each group of its children, but at least one and at most twelve. -/
theorem length_columns (e : Element) : (columns threshold e).length = e.rowWidth := by
  unfold Element.rowWidth
  have hlength : (Run.runs (·.isColumnLike) e.contentChildren).length = e.columnGroups :=
    e.length_columnRuns
  have hmax : Layout.maxColumns = 12 := rfl
  rw [columns_eq]
  dsimp only
  split
  case isTrue hnil =>
    rw [hnil, List.length_nil] at hlength
    simp [← hlength, hmax]
  case isFalse hnil =>
    have hpos := List.length_pos_iff.mpr hnil
    split
    · rw [List.length_map, hlength]
      omega
    · rw [List.length_append, List.length_map, List.length_take, List.length_singleton, hlength]
      omega

theorem type?_ofColumnGroup {g : Run Element} (h : ∀ c ∈ g.members, c.markedType? = none) :
    (ofColumnGroup threshold g).origin.type? = some .column := by
  cases g with
  | single e =>
    rw [ofColumnGroup_single, ofColumn_of_none threshold (h e (List.mem_singleton_self e))]
    rfl
  | loose es =>
    rw [ofColumnGroup_loose]
    rfl

/-- What holds of the columns for groups and of columns around loose elements holds of all columns
of a row. -/
theorem forall_mem_columns {P : Plan → Prop} {e : Element}
    (hgroup : ∀ g ∈ Run.runs (·.isColumnLike) e.contentChildren, P (ofColumnGroup threshold g))
    (hloose : ∀ notes contents, P (looseColumn notes contents)) :
    ∀ p ∈ columns threshold e, P p := by
  rw [columns_eq]
  dsimp only
  split
  · rw [List.forall_mem_singleton]
    exact hloose _ _
  · split
    · rw [List.forall_mem_map]
      exact hgroup
    · rw [List.forall_mem_append, List.forall_mem_map, List.forall_mem_singleton]
      exact ⟨fun g hg => hgroup g (List.mem_of_mem_take hg), hloose _ _⟩

/-- Without markers a row holds columns. -/
theorem type?_of_mem_columns {e : Element} (h : ∀ c ∈ e.contentChildren, c.markedType? = none)
    {p : Plan} (hp : p ∈ columns threshold e) : p.origin.type? = some .column := by
  refine forall_mem_columns threshold (P := fun p => p.origin.type? = some .column) ?_ ?_ p hp
  · exact fun g hg => type?_ofColumnGroup threshold fun c hc => h c (Run.mem_of_mem_runs hg hc)
  · exact fun _ _ => rfl

/-- There is always a row. -/
theorem rows_ne_nil (es : List Element) : rows threshold es ≠ [] := by
  rw [rows_eq]
  split
  · simp
  · rwa [ne_eq, List.map_eq_nil_iff, noteRows_runs_eq_nil_iff]

/-- What holds of the rows for groups and of an empty row holds of all rows. -/
theorem forall_mem_rows {P : Plan → Prop} {es : List Element}
    (hgroup : ∀ notes, ∀ g ∈ Run.runs (·.isRowLike) es, P (ofRowGroup threshold notes g))
    (hempty : P (looseRow [] [])) : ∀ p ∈ rows threshold es, P p := by
  rw [rows_eq]
  split
  · rw [List.forall_mem_singleton]
    exact hempty
  · rw [List.forall_mem_map]
    exact fun g hg => hgroup _ _ (mem_of_mem_noteRows hg)

/-- Without markers elements are divided into rows. -/
theorem type?_of_mem_rows {es : List Element} (h : ∀ e ∈ es, e.markedType? = none)
    {p : Plan} (hp : p ∈ rows threshold es) : p.origin.type? = some .row := by
  refine forall_mem_rows threshold (P := fun p => p.origin.type? = some .row) ?_ rfl p hp
  intro notes g hg
  cases g with
  | single e =>
    have he := h e (Run.mem_of_mem_runs hg (List.mem_singleton_self e))
    rw [ofRowGroup_single, ofRow_of_none threshold he]
    rfl
  | loose run =>
    rw [ofRowGroup_loose]
    rfl

/-! ### Sections -/

theorem inner_ofTopLevel (e : Element) :
    (ofTopLevel threshold e).inner = rows threshold e.sectionParts := by
  unfold ofTopLevel Element.sectionParts
  split <;> rfl

/-- The plans of a body by the shape of its elements are sections. -/
theorem section_of_mem_ofBody {threshold : ℕ} {body : Element} {p : Plan}
    (h : p ∈ ofBody threshold body) :
    p.origin.isWrapper = false ∧ p.origin.type? = some .pageSection := by
  obtain ⟨e, -, rfl⟩ := List.mem_map.mp h
  unfold ofTopLevel
  split
  · exact ⟨rfl, rfl⟩
  · exact ⟨rfl, rfl⟩

/-! ### Modules -/

variable (base : Int)

theorem draftsAll_eq_flatMap (ps : List Plan) : draftsAll base ps = ps.flatMap (drafts base) := by
  induction ps with
  | nil => rfl
  | cons p rest ih => rw [draftsAll, ih, List.flatMap_cons]

/-- The module of the given type around those of the plans inside. -/
def moduleOf (p : Plan) (type : ModuleType) : Draft :=
  .node type (p.origin.attributes base (draftsAll base p.inner).length) p.origin.isWrapper
    (draftsAll base p.inner)

/-- The module around those of the plans inside. -/
def ownModule? (p : Plan) : Option Draft := p.origin.type?.map (p.moduleOf base)

/-- A plan gives the module around those inside; only an element of no type gives way to what is
inside, unless that is several modules. -/
theorem drafts_eq (p : Plan) :
    p.drafts base =
      if p.origin.isWrapper = true ∧ (draftsAll base p.inner).length ≤ 1 then
        draftsAll base p.inner
      else (p.ownModule? base).toList := by
  obtain ⟨notes, o, children⟩ := p
  cases o with
  | wrapper e =>
    unfold drafts ownModule? moduleOf
    rw [inner_node, origin_node]
    rcases draftsAll base children with _ | ⟨d, _ | ⟨d', rest⟩⟩
    · rfl
    · rfl
    · rw [if_neg (by simp)]
      rfl
  | _ => rfl

/-- Plans that have a type and do not give way to others give one module each. -/
theorem draftsAll_eq_map {type : ModuleType} {ps : List Plan}
    (hwrapper : ∀ p ∈ ps, p.origin.isWrapper = false)
    (htype : ∀ p ∈ ps, p.origin.type? = some type) :
    draftsAll base ps = ps.map (·.moduleOf base type) := by
  induction ps with
  | nil => rfl
  | cons p rest ih =>
    obtain ⟨hp, hrest⟩ := List.forall_mem_cons.mp htype
    obtain ⟨hpw, hrestw⟩ := List.forall_mem_cons.mp hwrapper
    have hown : p.ownModule? base = some (p.moduleOf base type) := by
      rw [ownModule?, hp]
      rfl
    rw [draftsAll, drafts_eq, if_neg (by simp [hpw]), ih hrestw hrest, hown]
    rfl

/-- Only sections are put around others for want of a type, so plans of another type give one module
each. -/
theorem draftsAll_eq_map_of_ne {type : ModuleType} (hne : type ≠ .pageSection) {ps : List Plan}
    (htype : ∀ p ∈ ps, p.origin.type? = some type) :
    draftsAll base ps = ps.map (·.moduleOf base type) := by
  refine draftsAll_eq_map base (fun p hp => ?_) htype
  have hp := htype p hp
  cases ho : p.origin with
  | wrapper e =>
    rw [ho] at hp
    exact absurd (Option.some.inj hp).symm hne
  | _ => rfl

/-- The module of a plan, if there is one. -/
def module? (p : Plan) : Option Draft := (p.drafts base).head?

/-- A plan has at most one module. -/
theorem toList_module? (p : Plan) : (p.module? base).toList = p.drafts base := by
  have key : (p.drafts base).length ≤ 1 := by
    rw [drafts_eq]
    split
    case isTrue h => exact h.2
    case isFalse => cases p.ownModule? base <;> simp
  unfold module?
  rcases hd : p.drafts base with _ | ⟨d, _ | ⟨d', rest⟩⟩
  · rfl
  · rfl
  · rw [hd] at key
    simp at key

theorem draftsAll_eq_filterMap (ps : List Plan) :
    draftsAll base ps = ps.filterMap (module? base) := by
  rw [draftsAll_eq_flatMap, List.filterMap_eq_flatMap_toList]
  simp only [toList_module?]

/-- A body by the shape of its elements gives a section for each of them. -/
theorem draftsAll_ofBody (body : Element) :
    draftsAll base (ofBody threshold body) =
      (ofBody threshold body).map (·.moduleOf base .pageSection) :=
  draftsAll_eq_map base (fun _ hp => (section_of_mem_ofBody hp).1)
    fun _ hp => (section_of_mem_ofBody hp).2

/-! ### Marked elements -/

theorem ofMarked_of_type? {e : Element} {type : ModuleType} (h : e.type? = some type) :
    ∃ notes, ofMarked threshold e = ofTyped threshold notes e type := by
  rw [ofMarked]
  simp only [h]
  exact ⟨_, rfl⟩

theorem ofMarked_of_none {e : Element} (h : e.type? = none) :
    ∃ notes, ofMarked threshold e =
      node notes (.wrapper e) (e.contentChildren.map (ofMarked threshold)) := by
  rw [ofMarked]
  simp only [h]
  exact ⟨_, congrArg _ (List.attach_map_val (f := ofMarked threshold))⟩

/-- The module of an element of a known type. -/
def typedModule (e : Element) (type : ModuleType) : Draft :=
  (ofTyped threshold [] e type).moduleOf base type

/-- The notes on an element of a known type do not count for its module. -/
theorem drafts_ofTyped (notes : List Note) (e : Element) (type : ModuleType) :
    (ofTyped threshold notes e type).drafts base = [typedModule threshold base e type] := by
  rw [typedModule, ofTyped, ofTyped, drafts_eq, origin_node, if_neg (by simp [Origin.isWrapper])]
  rfl

theorem drafts_ofMarked_of_type? {e : Element} {type : ModuleType} (h : e.type? = some type) :
    (ofMarked threshold e).drafts base = [typedModule threshold base e type] := by
  obtain ⟨notes, hplan⟩ := ofMarked_of_type? threshold h
  rw [hplan, drafts_ofTyped]

end Plan

end PageModules
