import PageModules.Proofs.Walk.Grammar

/-!
# The contents of sections

A document that is read by the shape of its elements becomes sections of rows of columns.
`Conversion.forall₂_isSectionOf` says that this division neither loses nor repeats nor moves
anything: what stands in the columns of a section (`PageModule.contents`) is, in order, what its
elements give one by one, and each row is as wide as the groups of its children ask for
(`Element.rowWidths`), up to twelve.
-/

namespace PageModules

/-! ### What is expected -/

namespace Element

/-- How many columns the row of a piece has: one, unless the piece is an element that looks like a
row. -/
def pieceWidth : List Element → ℕ
  | [e] => if e.isRowLike then e.rowWidth else 1
  | _ => 1

/-- How many columns the rows have that elements are divided into: those that look like rows stand
alone, and the longest pieces of others between them share a row.  There is always a row. -/
def rowWidths (es : List Element) : List ℕ :=
  if es = [] then [1]
  else (es.splitBy fun a b => !a.isRowLike && !b.isRowLike).map pieceWidth

/-- The plans that an element gives inside of a row: what is in it if it looks like a column. -/
def columnPlans (threshold : ℕ) (e : Element) : List Plan :=
  if e.isColumnLike then Plan.columnContent threshold e else [Plan.ofContent threshold e]

/-- The plans that an element gives inside of a section: those of its children if it looks like a
row. -/
def rowPlans (threshold : ℕ) (e : Element) : List Plan :=
  if e.isRowLike then e.contentChildren.flatMap (columnPlans threshold)
  else [Plan.ofContent threshold e]

end Element

namespace Plan

/-! ### Columns -/

variable (threshold : ℕ)

theorem inner_ofColumnGroup {g : Run Element} (h : ∀ c ∈ g.members, c.markedType? = none) :
    (ofColumnGroup threshold g).inner = groupContent threshold g := by
  cases g with
  | single e =>
    rw [ofColumnGroup_single, ofColumn_of_none threshold (h e (List.mem_singleton_self e)),
      groupContent_single, inner_node]
  | loose es =>
    rw [ofColumnGroup_loose, groupContent_loose, looseColumn, inner_node]

/-- What the groups of the children of a row hold is what the children give one by one. -/
theorem flatMap_groupContent_runs (es : List Element) :
    (Run.runs (·.isColumnLike) es).flatMap (groupContent threshold) =
      es.flatMap (Element.columnPlans threshold) := by
  rw [funext (groupContent_eq threshold), Run.flatMap_contents_runs]
  rfl

/-- **Columns keep the contents of a row**, also where those beyond the twelfth are folded. -/
theorem flatMap_inner_columns {e : Element} (h : ∀ c ∈ e.contentChildren, c.markedType? = none) :
    (columns threshold e).flatMap inner =
      e.contentChildren.flatMap (Element.columnPlans threshold) := by
  rw [← flatMap_groupContent_runs, columns_eq]
  dsimp only
  set groups := Run.runs (·.isColumnLike) e.contentChildren with hgroups
  have hmap {gs : List (Run Element)} (hgs : ∀ g ∈ gs, g ∈ groups) :
      (gs.map (ofColumnGroup threshold)).flatMap inner = gs.flatMap (groupContent threshold) := by
    rw [List.flatMap_map]
    refine List.flatMap_congr fun g hg => inner_ofColumnGroup threshold fun c hc => h c ?_
    exact Run.mem_of_mem_runs (hgs g hg) hc
  split
  case isTrue hnil =>
    rw [hnil]
    rfl
  case isFalse =>
    split
    · exact hmap fun g hg => hg
    -- The last column is built from the contents of the groups from the twelfth on.
    · rw [List.flatMap_append, hmap fun g hg => List.mem_of_mem_take hg, List.flatMap_singleton,
        looseColumn, inner_node, ← List.flatMap_append, List.take_append_drop]

/-! ### Rows -/

/-- What is inside of the columns of a group of rows. -/
theorem flatMap_inner_ofRowGroup {g : Run Element} (notes : List Note)
    (h : ∀ e ∈ g.members, e.markedType? = none ∧ ∀ c ∈ e.contentChildren, c.markedType? = none) :
    (ofRowGroup threshold notes g).inner.flatMap inner =
      g.contents (fun e => e.contentChildren.flatMap (Element.columnPlans threshold))
        fun e => [ofContent threshold e] := by
  cases g with
  | single e =>
    obtain ⟨he, hchildren⟩ := h e (List.mem_singleton_self e)
    rw [ofRowGroup_single, ofRow_of_none threshold he]
    exact flatMap_inner_columns threshold hchildren
  | loose es =>
    rw [ofRowGroup_loose, looseRow, inner_node, List.flatMap_singleton, looseColumn, inner_node,
      Run.contents, ← List.map_eq_flatMap]

/-- **Rows keep the contents of a section.** -/
theorem flatMap_inner_rows {es : List Element}
    (h : ∀ e ∈ es, e.markedType? = none ∧ ∀ c ∈ e.contentChildren, c.markedType? = none) :
    (rows threshold es).flatMap (·.inner.flatMap inner) =
      es.flatMap (Element.rowPlans threshold) := by
  rw [rows_eq]
  split
  case isTrue hnil =>
    rw [hnil]
    rfl
  case isFalse =>
    have hgroup : ∀ p ∈ noteRows (Run.runs (·.isRowLike) es),
        (ofRowGroup threshold p.1 p.2).inner.flatMap inner =
          p.2.contents (fun e => e.contentChildren.flatMap (Element.columnPlans threshold))
            fun e => [ofContent threshold e] :=
      fun p hp => flatMap_inner_ofRowGroup threshold p.1 fun e he =>
        h e (Run.mem_of_mem_runs (mem_of_mem_noteRows hp) he)
    rw [List.flatMap_map, List.flatMap_congr hgroup, ← List.flatMap_map (f := Prod.snd),
      map_snd_noteRows, Run.flatMap_contents_runs]
    rfl

/-- A row is as wide as its piece asks for. -/
theorem length_inner_ofRowGroup {es : List Element} {g : Run Element} (notes : List Note)
    (hg : g ∈ Run.runs (·.isRowLike) es) (h : ∀ e ∈ g.members, e.markedType? = none) :
    (ofRowGroup threshold notes g).inner.length = Element.pieceWidth g.members := by
  cases g with
  | single e =>
    rw [ofRowGroup_single, ofRow_of_none threshold (h e (List.mem_singleton_self e)), Run.members,
      Element.pieceWidth, if_pos (Run.fits_of_single_mem_runs hg)]
    exact length_columns threshold e
  | loose es =>
    have hfits := (Run.not_fits_of_loose_mem_runs hg).2
    rw [ofRowGroup_loose, Run.members]
    -- A run of one element is no row by itself.
    rcases es with _ | ⟨e, _ | ⟨e', rest⟩⟩
    · rfl
    · rw [Element.pieceWidth, if_neg (hfits e (List.mem_singleton_self e))]
      rfl
    · rfl

/-- Rows are as wide as the elements that they are made of ask for. -/
theorem map_length_inner_rows {es : List Element} (h : ∀ e ∈ es, e.markedType? = none) :
    (rows threshold es).map (·.inner.length) = Element.rowWidths es := by
  rw [rows_eq, Element.rowWidths]
  split
  case isTrue => rfl
  case isFalse =>
    have hgroup : ∀ p ∈ noteRows (Run.runs (·.isRowLike) es),
        (ofRowGroup threshold p.1 p.2).inner.length = Element.pieceWidth p.2.members := by
      intro p hp
      have hg := mem_of_mem_noteRows hp
      exact length_inner_ofRowGroup threshold p.1 hg fun e he => h e (Run.mem_of_mem_runs hg he)
    calc ((noteRows (Run.runs (·.isRowLike) es)).map
            fun p => ofRowGroup threshold p.1 p.2).map (·.inner.length)
      _ = (noteRows (Run.runs (·.isRowLike) es)).map fun p => Element.pieceWidth p.2.members := by
        rw [List.map_map]
        exact List.map_congr_left hgroup
      _ = ((Run.runs (·.isRowLike) es).map Run.members).map Element.pieceWidth := by
        nth_rewrite 2 [← map_snd_noteRows (Run.runs (·.isRowLike) es)]
        rw [List.map_map, List.map_map]
        rfl
      _ = (es.splitBy fun a b => !a.isRowLike && !b.isRowLike).map Element.pieceWidth := by
        rw [Run.map_members_runs]

/-! ### Drafts -/

theorem draftsAll_flatMap (base : ℤ) {α : Type} (f : α → List Plan) (as : List α) :
    draftsAll base (as.flatMap f) = as.flatMap fun a => draftsAll base (f a) := by
  simp only [draftsAll_eq_flatMap, List.flatMap_assoc]

end Plan

/-! ### Modules without identifiers -/

namespace PageModule

mutual

/-- The module without its identifier, and those inside without theirs. -/
def toDraft : PageModule → Draft
  | ⟨_, type, attrs, children⟩ => .node type attrs false (toDraftAll children)

/-- Modules without their identifiers. -/
def toDraftAll : List PageModule → List Draft
  | [] => []
  | m :: rest => toDraft m :: toDraftAll rest

end

theorem toDraftAll_eq_map (ms : List PageModule) : toDraftAll ms = ms.map toDraft := by
  induction ms with
  | nil => rfl
  | cons m rest ih => rw [toDraftAll, ih, List.map_cons]

theorem children_toDraft (m : PageModule) : m.toDraft.children = m.children.map toDraft := by
  cases m
  rw [toDraft, Draft.children, toDraftAll_eq_map]

theorem type_toDraft (m : PageModule) : m.toDraft.type = m.type := by
  cases m
  rw [toDraft, Draft.type]

mutual

/-- Numbers are all that a draft without late modules is given. -/
theorem toDraft_number (token : String) (n : ℕ) (d : Draft)
    (h : ∀ d' ∈ d.parts, d'.isLate = false) : (d.number token n).toDraft = d := by
  obtain ⟨type, attrs, isLate, children⟩ := d
  rw [Draft.parts, List.forall_mem_cons] at h
  obtain ⟨hlate, hchildren⟩ := h
  rw [Draft.isLate] at hlate
  rw [Draft.number, hlate, if_neg Bool.false_ne_true, toDraft,
    toDraftAll_numberAll token (n + 1) children hchildren]

/-- Numbers are all that drafts without late modules are given. -/
theorem toDraftAll_numberAll (token : String) (n : ℕ) (ds : List Draft)
    (h : ∀ d' ∈ Draft.partsAll ds, d'.isLate = false) :
    toDraftAll (Draft.numberAll token n ds) = ds := by
  cases ds with
  | nil => rfl
  | cons d rest =>
    rw [Draft.partsAll, List.forall_mem_append] at h
    rw [Draft.numberAll, toDraftAll, toDraft_number token n d h.1,
      toDraftAll_numberAll token _ rest h.2]

end

/-- What stands in the columns of a section, read in order. -/
def contents (s : PageModule) : List PageModule :=
  s.children.flatMap fun row => row.children.flatMap (·.children)

theorem map_toDraft_contents (s : PageModule) :
    s.contents.map toDraft =
      (s.children.map toDraft).flatMap fun row => row.children.flatMap (·.children) := by
  unfold contents
  simp only [List.map_flatMap, List.flatMap_map, children_toDraft]

/-! ### Sections -/

/-- The module is the section for an element: rows of columns that hold what the elements of the
section give one by one, and that are as wide as these ask for. -/
structure IsSectionOf (options : ConversionOptions) (e : Element) (s : PageModule) : Prop where
  /-- It is a section. -/
  type_eq : s.type = .pageSection
  /-- It consists of rows. -/
  rows : ∀ row ∈ s.children, row.type = .row
  /-- The rows consist of columns. -/
  columns : ∀ row ∈ s.children, ∀ column ∈ row.children, column.type = .column
  /-- Nothing is lost or repeated or moved. -/
  contents : s.contents.map toDraft =
    (e.sectionParts.flatMap (Element.rowPlans options.threshold)).filterMap
      (Plan.module? options.baseFontSize)
  /-- The rows are as wide as the elements ask for. -/
  widths : s.children.map (·.children.length) = Element.rowWidths e.sectionParts

/-- A module that is that of the plan of a section, but for the identifiers, is the section for the
element. -/
theorem isSectionOf_of_toDraft {options : ConversionOptions} {scope : Element → Prop}
    (hscope : Plan.IsClosed scope) (hmarks : ∀ e, scope e → e.markedType? = none) {e : Element}
    (he : scope e) {s : PageModule}
    (hs : s.toDraft = (Plan.ofTopLevel options.threshold e).moduleOf options.baseFontSize
      .pageSection) : s.IsSectionOf options e := by
  set base := options.baseFontSize
  set rows := Plan.rows options.threshold e.sectionParts with hrows
  have hparts : ∀ c ∈ e.sectionParts, scope c := by
    unfold Element.sectionParts
    split
    · exact hscope e he
    · exact List.forall_mem_singleton.mpr he
  have hpartMarks : ∀ c ∈ e.sectionParts, c.markedType? = none := fun c hc => hmarks c (hparts c hc)
  have hrow : ∀ r ∈ rows, r.origin.type? = some .row :=
    fun r hr => Plan.type?_of_mem_rows options.threshold hpartMarks hr
  have hcolumn : ∀ r ∈ rows, ∀ c ∈ r.inner, c.origin.type? = some .column := by
    intro r hr
    have hpart : r ∈ Plan.partsAll rows := Plan.mem_partsAll_iff.mpr ⟨r, hr, Plan.mem_parts_self r⟩
    have hbuilt := Plan.isBuilt_of_mem_parts_plans (t := .rows e.sectionParts) hscope hparts hpart
    exact (hbuilt.admits hscope hmarks (hrow r hr)).2.2
  have hinside (r : Plan) (hr : r ∈ rows) :
      Plan.draftsAll base r.inner = r.inner.map (·.moduleOf base .column) :=
    Plan.draftsAll_eq_map_of_ne base (by decide) (hcolumn r hr)
  -- The modules inside of the section, without identifiers, are those of the plans of the rows.
  have hchildren : s.children.map toDraft = rows.map (·.moduleOf base .row) := by
    rw [← children_toDraft, hs, Plan.moduleOf, Draft.children, Plan.inner_ofTopLevel, ← hrows]
    exact Plan.draftsAll_eq_map_of_ne base (by decide) hrow
  have hmem : ∀ row ∈ s.children, ∃ r ∈ rows, r.moduleOf base .row = row.toDraft := by
    intro row hm
    apply List.mem_map.mp
    rw [← hchildren]
    exact List.mem_map_of_mem hm
  refine { type_eq := ?_, rows := ?_, columns := ?_, contents := ?_, widths := ?_ }
  · rw [← type_toDraft, hs]
    rfl
  · intro row hm
    obtain ⟨r, -, hr⟩ := hmem row hm
    rw [← type_toDraft, ← hr]
    rfl
  · intro row hm column hc
    obtain ⟨r, hr, hrow⟩ := hmem row hm
    have hdraft : column.toDraft ∈ row.children.map toDraft := List.mem_map_of_mem hc
    rw [← children_toDraft, ← hrow, Plan.moduleOf, Draft.children, hinside r hr] at hdraft
    obtain ⟨c, -, hc⟩ := List.mem_map.mp hdraft
    rw [← type_toDraft, ← hc]
    rfl
  · rw [map_toDraft_contents, hchildren, List.flatMap_map, ← Plan.draftsAll_eq_filterMap,
      ← Plan.flatMap_inner_rows, Plan.draftsAll_flatMap]
    · refine List.flatMap_congr fun r hr => ?_
      rw [Plan.moduleOf, Draft.children, hinside r hr, List.flatMap_map, Plan.draftsAll_flatMap]
      rfl
    · exact fun c hc => ⟨hpartMarks c hc, fun k hk => hmarks k (hscope c (hparts c hc) k hk)⟩
  · rw [← Plan.map_length_inner_rows options.threshold hpartMarks]
    calc s.children.map (·.children.length)
      _ = (s.children.map toDraft).map (·.children.length) := by
        rw [List.map_map]
        refine List.map_congr_left fun row _ => ?_
        rw [Function.comp_apply, children_toDraft, List.length_map]
      _ = rows.map (·.inner.length) := by
        rw [hchildren, List.map_map]
        refine List.map_congr_left fun r hr => ?_
        rw [Function.comp_apply, Plan.moduleOf, Draft.children, hinside r hr, List.length_map]

end PageModule

/-- A row of thirteen columns. -/
def Element.wideRow : Element :=
  ⟨⟨.html, "div", [⟨.none, "class", "row"⟩]⟩,
    List.replicate 13 (.element ⟨.html, "div", [⟨.none, "class", "col"⟩]⟩ [])⟩

namespace Conversion

/-- Without identifiers, a page by the shape of the elements is a section for each element of the
body. -/
theorem map_toDraft_content (options : ConversionOptions) (token : String) (body : Element) :
    (pageOf options .generic token body).content.map PageModule.toDraft =
      body.contentChildren.map fun e =>
        (Plan.ofTopLevel options.threshold e).moduleOf options.baseFontSize .pageSection := by
  calc (pageOf options .generic token body).content.map PageModule.toDraft
    _ = Plan.draftsAll options.baseFontSize (Plan.ofBody options.threshold body) := by
      rw [← PageModule.toDraftAll_eq_map]
      apply PageModule.toDraftAll_numberAll
      exact fun d' hd' => Draft.isLate_of_mem_parts_ofBody hd'
    _ = body.contentChildren.map fun e =>
        (Plan.ofTopLevel options.threshold e).moduleOf options.baseFontSize .pageSection := by
      rw [Plan.draftsAll_ofBody, Plan.ofBody, List.map_map]
      rfl

/-- **Sections keep the contents of the document**: if no element has a marker that names a type,
the page that the shape of the elements gives is one section for each element of the body, in order;
and any element makes a row with a column for each group of its children, up to twelve. -/
theorem forall₂_isSectionOf {options : ConversionOptions} {d : Document} {token : String} {p : Page}
    {body : Element} (hmarks : d.IsUnmarked) (hbody : d.body? = some body)
    (h : (ofDocument options .generic d).outcome token = .page p) :
    List.Forall₂ (fun e s => s.IsSectionOf options e) body.contentChildren p.content ∧
      ∀ e ∈ d.elements,
        (Plan.draftsAll options.baseFontSize (Plan.columns options.threshold e)).length =
          e.rowWidth := by
  have hscope : Plan.IsClosed (· ∈ d.elements) :=
    fun _ he _ hc => Document.mem_elements_of_mem_contentChildren he hc
  obtain ⟨body', hbody', rfl⟩ := (outcome_ofDocument_eq_page_iff options .generic).mp h
  obtain rfl := Option.some.inj (hbody.symm.trans hbody')
  constructor
  · have hpairs : List.Forall₂ (· = ·) _ _ :=
      List.forall₂_eq_eq_eq ▸ (map_toDraft_content options token body).symm
    rw [List.forall₂_map_left_iff, List.forall₂_map_right_iff] at hpairs
    have hbodyMem := Document.mem_elements_of_body? hbody
    have hboth := (List.forall₂_and_left _ _).mpr ⟨fun e he => hscope body hbodyMem e he, hpairs⟩
    exact hboth.imp fun e s hes => PageModule.isSectionOf_of_toDraft hscope hmarks hes.1 hes.2.symm
  · intro e he
    have hchildren : ∀ c ∈ e.contentChildren, c.markedType? = none :=
      fun c hc => hmarks c (hscope e he c hc)
    have hcolumn : ∀ c ∈ Plan.columns options.threshold e, c.origin.type? = some .column :=
      fun c hc => Plan.type?_of_mem_columns options.threshold hchildren hc
    rw [Plan.draftsAll_eq_map_of_ne options.baseFontSize (by decide) hcolumn, List.length_map]
    exact Plan.length_columns options.threshold e

/-- The thirteenth column of a row is folded into the twelfth. -/
theorem forall₂_isSectionOf_wideRow :
    ∃ p, (ofDocument {} .generic (.ofBody [.wideRow])).outcome "0123456789abc" = .page p ∧
      List.Forall₂ (fun e s => s.IsSectionOf {} e) [.wideRow] p.content ∧
      Element.rowWidths (Element.sectionParts .wideRow) = [12] := by
  have hbody := Document.body?_ofBody [.wideRow]
  have hpage := outcome_of_body? {} .generic hbody "0123456789abc"
  exact ⟨_, hpage, (forall₂_isSectionOf (by decide +kernel) hbody hpage).1, by decide +kernel⟩

end Conversion

end PageModules
