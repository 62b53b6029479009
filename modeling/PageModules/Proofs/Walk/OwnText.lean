import PageModules.Proofs.Lists
import PageModules.Proofs.Text.Cutting
import PageModules.Proofs.Walk.Roles
import PageModules.Proofs.Walk.Sources

/-!
# The text of columns

Sections, rows and columns are made of the elements inside; a text between these has no module.
Only a column without elements inside becomes a module of its text, and there no text is lost
(`Conversion.exists_infix_content`).  Other texts may be (`Conversion.not_holds_strayText`).
-/

namespace PageModules

open Text (isBlank)
open Chars (IsTrimmed)

namespace Plan

/-! ### Rows and columns of one element -/

variable (threshold : ℕ)

theorem exists_rows_singleton {e : Element} (hrow : e.isRowLike = true)
    (hmark : e.markedType? = none) :
    ∃ notes, rows threshold [e] = [node notes (.shapedRow e) (columns threshold e)] := by
  have hruns : Run.runs (·.isRowLike) [e] = [.single e] := Run.runs_cons_of_fits hrow _
  rw [rows_eq, if_neg (List.cons_ne_nil _ _), hruns, noteRows, noteRows, List.map_singleton,
    ofRowGroup_single, ofRow_of_none threshold hmark]
  exact ⟨_, rfl⟩

theorem columns_of_contentChildren_eq {e c : Element} (h : e.contentChildren = [c])
    (hcolumn : c.isColumnLike = true) (hmark : c.markedType? = none) :
    columns threshold e = [node [] (.shapedColumn c) (columnContent threshold c)] := by
  have hruns : Run.runs (·.isColumnLike) [c] = [.single c] := Run.runs_cons_of_fits hcolumn _
  have hplan : ofColumnGroup threshold (.single c) =
      node [] (.shapedColumn c) (columnContent threshold c) := by
    rw [ofColumnGroup_single, ofColumn_of_none threshold hmark]
  rw [columns_eq, h, hruns, ← hplan]
  rfl

/-! ### Sources -/

variable {threshold}

mutual

/-- A part of a type is a source, if nothing around it gives way or is dropped with what is inside.
-/
theorem mem_sources_of_mem_parts (base : Int) (p q : Plan)
    (h : ∀ r ∈ p.parts, r.origin.isWrapper = false ∧ (r.origin.type? = none → r.inner = []))
    (hq : q ∈ p.parts) (htype : q.origin.type? ≠ none) : q ∈ p.sources base := by
  obtain ⟨notes, o, children⟩ := p
  rw [parts, List.forall_mem_cons] at h
  obtain ⟨⟨hwrapper, hnone⟩, hchildren⟩ := h
  rw [origin_node] at hwrapper hnone
  rw [parts, List.mem_cons] at hq
  rw [sources, if_neg (by simp [hwrapper])]
  cases ho : o.type? with
  | some type =>
    dsimp only
    rcases hq with rfl | hq
    · exact List.mem_cons_self
    · exact List.mem_cons_of_mem _ (mem_sourcesAll_of_mem_parts base children q hchildren hq htype)
  | none =>
    -- What is dropped has nothing inside.
    obtain rfl : children = [] := hnone ho
    rcases hq with rfl | hq
    · exact absurd ho htype
    · cases hq

theorem mem_sourcesAll_of_mem_parts (base : Int) (ps : List Plan) (q : Plan)
    (h : ∀ r ∈ partsAll ps, r.origin.isWrapper = false ∧ (r.origin.type? = none → r.inner = []))
    (hq : q ∈ partsAll ps) (htype : q.origin.type? ≠ none) : q ∈ sourcesAll base ps := by
  cases ps with
  | nil => cases hq
  | cons p rest =>
    rw [partsAll, List.forall_mem_append] at h
    rw [partsAll, List.mem_append] at hq
    rw [sourcesAll, List.mem_append]
    rcases hq with hq | hq
    · exact .inl (mem_sources_of_mem_parts base p q h.1 hq htype)
    · exact .inr (mem_sourcesAll_of_mem_parts base rest q h.2 hq htype)

end

/-- By the shape of the elements only what is dropped has no type. -/
theorem IsBuilt.inner_eq_nil {scope : Element → Prop} {p : Plan} (h : IsBuilt threshold scope p)
    (htype : p.origin.type? = none) : p.inner = [] := by
  cases h with
  | dropped => rfl
  | _ => cases htype

/-- By the shape of the elements every part of a type has a module. -/
theorem mem_sourcesAll_ofBody {scope : Element → Prop} (hscope : IsClosed scope) {body : Element}
    (hbody : scope body) (base : Int) {q : Plan} (hq : q ∈ partsAll (ofBody threshold body))
    (htype : q.origin.type? ≠ none) : q ∈ sourcesAll base (ofBody threshold body) := by
  refine mem_sourcesAll_of_mem_parts base _ q (fun r hr => ?_) hq htype
  have hbuilt := isBuilt_of_mem_parts hscope hbody hr
  exact ⟨hbuilt.isWrapper_origin, hbuilt.inner_eq_nil⟩

end Plan

/-! ### Markup -/

namespace Serialization

theorem textChar_ne_nil (c : Char) : textChar c ≠ [] := by
  unfold textChar
  split_ifs <;> first | decide | exact List.cons_ne_nil c []

/-- A character that is no blank is written without blanks. -/
theorem isTrimmed_textChar {c : Char} (hc : isBlank c = false) : IsTrimmed (textChar c) := by
  refine .of_forall ?_
  unfold textChar
  split_ifs
  · decide
  · decide
  · decide
  · decide
  · exact List.forall_mem_singleton.mpr hc

/-- A trimmed text is written without blanks at the ends. -/
theorem isTrimmed_flatMap_textChar {s : List Char} (hs : IsTrimmed s) :
    IsTrimmed (s.flatMap textChar) := by
  constructor
  · intro d hd
    cases s with
    | nil => cases hd
    | cons c s =>
      rw [List.flatMap_cons, List.head?_append_of_ne_nil _ (textChar_ne_nil c)] at hd
      exact (isTrimmed_textChar (hs.head c rfl)).head d hd
  · intro d hd
    rcases List.eq_nil_or_concat' s with rfl | ⟨front, c, rfl⟩
    · cases hd
    · rw [List.flatMap_append, List.flatMap_singleton,
        List.getLast?_append_of_ne_nil _ (textChar_ne_nil c)] at hd
      exact (isTrimmed_textChar (hs.last c (by simp))).last d hd

theorem node_none_text (s : String) : node none (.text s) = s.toList.flatMap textChar := by
  -- The equations of `node` would evaluate the texts around comments, so they are not used.
  change text none s = s.toList.flatMap textChar
  unfold text
  exact if_neg Bool.false_ne_true

/-- A child is written in the text of its parent. -/
theorem node_infix_nodes {parent : Option String} {n : Node} {ns : List Node} (h : n ∈ ns) :
    node parent n <:+: nodes parent ns := by
  induction ns with
  | nil => cases h
  | cons n' ns ih =>
    rw [nodes]
    rcases List.mem_cons.mp h with rfl | h
    · exact (List.prefix_append _ _).isInfix
    · exact (ih h).trans (List.suffix_append _ _).isInfix

end Serialization

namespace Element

/-- A text as markup, without the blanks at its ends. -/
def textMarkup (s : String) : List Char := (Chars.trim s.toList).flatMap Serialization.textChar

/-- The markup of an element holds its text. -/
theorem textMarkup_infix_innerMarkup {e : Element} {s : String} (h : .text s ∈ e.children) :
    textMarkup s <:+: e.innerMarkup.toList := by
  have htext : s.toList.flatMap Serialization.textChar <:+: Serialization.nodes none e.children :=
    Serialization.node_none_text s ▸ Serialization.node_infix_nodes h
  have htrim : textMarkup s <:+: s.toList.flatMap Serialization.textChar := by
    obtain ⟨before, after, hs⟩ := Chars.trim_infix s.toList
    rw [← hs, List.flatMap_append, List.flatMap_append]
    exact ⟨_, _, rfl⟩
  have htrimmed : IsTrimmed (textMarkup s) :=
    Serialization.isTrimmed_flatMap_textChar (Chars.isTrimmed_trim s.toList)
  rw [innerMarkup, String.toList_ofList]
  exact htrimmed.infix_trim (htrim.trans htext)

theorem hasDirectText_of_mem {e : Element} {s : String} (h : .text s ∈ e.children)
    (hs : Text.isBlankText s = false) : e.hasDirectText = true := by
  rw [hasDirectText, List.any_eq_true]
  exact ⟨.text s, h, by simp [hs]⟩

/-- An element around a text and another element. -/
def beside (tag : Tag) (s : String) (e : Element) : Element := ⟨tag, [.text s, e.toNode]⟩

theorem contentChildren_beside (tag : Tag) (s : String) {e : Element}
    (h : skippedTags.contains e.tagName = false) : (beside tag s e).contentChildren = [e] :=
  List.filter_eq_self.mpr (List.forall_mem_singleton.mpr (congrArg not h))

theorem mem_contentChildren_beside (tag : Tag) (s : String) {e : Element}
    (h : skippedTags.contains e.tagName = false) : e ∈ (beside tag s e).contentChildren := by
  rw [contentChildren_beside tag s h]
  exact List.mem_singleton_self e

/-- A column with a text beside an element. -/
def strayColumn : Element :=
  beside ⟨.html, "div", [⟨.none, "class", "col"⟩]⟩ "stray" (paragraph "kept")

/-- A row with a text beside a column. -/
def strayRow : Element := beside ⟨.html, "div", [⟨.none, "class", "row"⟩]⟩ "stray" strayColumn

/-- A section with a text beside a row. -/
def straySection : Element := beside ⟨.html, "section", []⟩ "stray" strayRow

/-- A body with a text beside a section. -/
def strayBody : Element := beside ⟨.html, "body", []⟩ "stray" straySection

/-- A column of text. -/
def textColumn : Element := ⟨⟨.html, "div", [⟨.none, "class", "col"⟩]⟩, [.text " one & two"]⟩

/-- A row with a text beside a column of text. -/
def textRow : Element := beside ⟨.html, "div", [⟨.none, "class", "row"⟩]⟩ "stray" textColumn

end Element

/-- A text stands in one of the text attributes. -/
def Attributes.Holds (s : String) (attrs : Attributes) : Prop :=
  ∃ e ∈ attrs.entries, ∃ t ∈ e.2.text?, s.toList <:+: t.toList

instance (s : String) (attrs : Attributes) : Decidable (attrs.Holds s) :=
  inferInstanceAs (Decidable (∃ e ∈ attrs.entries, ∃ t ∈ e.2.text?, s.toList <:+: t.toList))

/-! ### Pages -/

namespace Conversion

/-- **A column without elements inside keeps its text**: if no element has a marker that names a
type, a text in it stands in the content of a text module of the page. -/
theorem exists_infix_content {d : Document} {body : Element} (hmarks : d.IsUnmarked)
    (hbody : d.body? = some body) (options : ConversionOptions) (token : String) {e : Element}
    (he : Element.IsTreatedAs options.threshold body .column e) (hleaf : e.contentChildren = [])
    {s : String} (hs : .text s ∈ e.children) (hblank : Text.isBlankText s = false) :
    ∃ p, (ofDocument options .generic d).outcome token = .page p ∧
      ∃ m ∈ PageModule.preorderAll p.content, m.type = .text ∧
        ∃ content, m.attrs.find? "content" = some (.text content) ∧
          Element.textMarkup s <:+: content.toList := by
  have hscope : Plan.IsClosed (· ∈ d.elements) :=
    fun _ he _ hc => Document.mem_elements_of_mem_contentChildren he hc
  have hbodyMem := Document.mem_elements_of_body? hbody
  have hsignificant : e.hasSignificantContent = true := by
    rw [Element.hasSignificantContent, Element.hasDirectText_of_mem hs hblank, Bool.or_true]
  have hpart := (Plan.ownText_mem_partsAll_iff hscope hmarks hbodyMem).mpr
    ⟨he, hleaf, hsignificant⟩
  have hsource : Plan.node [] (.ownText e) [] ∈ sourcesOf options .generic body :=
    Plan.mem_sourcesAll_ofBody hscope hbodyMem _ hpart (by simp [Origin.type?])
  obtain ⟨m, hm, hmodule⟩ :=
    Lists.exists_mem_of_forall₂ (forall₂_isModuleOf options .generic token body) hsource
  refine ⟨_, outcome_of_body? options .generic hbody token, m, hm,
    (Option.some.inj hmodule.type_eq).symm, e.innerMarkup, ?_,
    Element.textMarkup_infix_innerMarkup hs⟩
  rw [hmodule.attrs_eq]
  rfl

/-- The text of a column stands in the page. -/
theorem exists_infix_content_textColumn :
    (Document.ofBody [.textRow]).IsUnmarked ∧
      Element.IsTreatedAs 50 (.plain "body" [.textRow]) .column .textColumn ∧
      ∃ p, (ofDocument {} .generic (.ofBody [.textRow])).outcome "0123456789abc" = .page p ∧
        ∃ m ∈ PageModule.preorderAll p.content, m.type = .text ∧
          ∃ content, m.attrs.find? "content" = some (.text content) ∧
            "one &amp; two".toList <:+: content.toList := by
  have hmarks : (Document.ofBody [.textRow]).IsUnmarked := by decide +kernel
  have hbody := Document.body?_ofBody [.textRow]
  have hrow : Element.IsTreatedAs 50 (.plain "body" [.textRow]) .row .textRow := by
    have hrole : Element.textRow.sectionRole = .row := by decide +kernel
    refine hrole ▸ .loose ?_ (by decide +kernel)
    rw [Element.contentChildren_plain (by decide +kernel)]
    exact List.mem_singleton_self _
  have hcolumn : Element.IsTreatedAs 50 (.plain "body" [.textRow]) .column .textColumn := by
    have hrole : Element.textColumn.rowRole = .column := by decide +kernel
    exact hrole ▸ .inRow hrow (Element.mem_contentChildren_beside _ _ (by decide +kernel))
  have hmarkup : Element.textMarkup " one & two" = "one &amp; two".toList := by decide +kernel
  refine ⟨hmarks, hcolumn, hmarkup ▸ ?_⟩
  exact exists_infix_content hmarks hbody {} "0123456789abc" hcolumn (by decide +kernel)
    (s := " one & two") List.mem_cons_self (by decide +kernel)

theorem exists_sourcesOf_strayBody : ∃ rowNotes textNotes,
    let text := Plan.node textNotes (.typed (.paragraph "kept") .text) []
    let column := Plan.node [] (.shapedColumn .strayColumn) [text]
    let row := Plan.node rowNotes (.shapedRow .strayRow) [column]
    sourcesOf {} .generic .strayBody =
      [.node [] (.shapedSection .straySection) [row], row, column, text] := by
  have hmarks : Element.strayRow.markedType? = none ∧ Element.strayColumn.markedType? = none ∧
      (Element.paragraph "kept").markedType? = none := by decide
  have hshapes : Element.straySection.isSectionLike = true ∧ Element.strayRow.isRowLike = true ∧
      Element.strayColumn.isColumnLike = true := by decide
  obtain ⟨hrowMark, hcolumnMark, htextMark⟩ := hmarks
  obtain ⟨hsection, hrow, hcolumn⟩ := hshapes
  have htype : (Element.paragraph "kept").likelyType? = some .text := by decide
  have hcomponent : Plan.accepted? 50 (.paragraph "kept") = none :=
    Option.isNone_iff_eq_none.mp (by decide)
  have htext : ∃ notes, Plan.ofContent 50 (.paragraph "kept") =
      .node notes (.typed (.paragraph "kept") .text) [] := by
    rw [Plan.ofContent_of_likelyType? htextMark hcomponent htype, Plan.ofTyped,
      Plan.typedChildren_of_leaf 50 (by decide) rfl]
    exact ⟨_, rfl⟩
  obtain ⟨textNotes, htext⟩ := htext
  have hcontent : Plan.columnContent 50 .strayColumn =
      [.node textNotes (.typed (.paragraph "kept") .text) []] := by
    rw [Plan.columnContent_eq, Element.strayColumn,
      Element.contentChildren_beside _ _ (by decide), if_neg (List.cons_ne_nil _ _),
      List.map_singleton, htext]
  have hchildren : Element.strayRow.contentChildren = [.strayColumn] :=
    Element.contentChildren_beside _ _ (by decide)
  have hcolumns := Plan.columns_of_contentChildren_eq 50 hchildren hcolumn hcolumnMark
  obtain ⟨rowNotes, hrows⟩ := Plan.exists_rows_singleton 50 hrow hrowMark
  refine ⟨rowNotes, textNotes, ?_⟩
  rw [sourcesOf, plansOf, Plan.ofBody, Element.strayBody,
    Element.contentChildren_beside _ _ (by decide), List.map_singleton, Plan.ofTopLevel,
    if_pos hsection, Element.straySection, Element.contentChildren_beside _ _ (by decide),
    hrows, hcolumns, hcontent]
  rfl

theorem isTreatedAs_stray :
    Element.IsTreatedAs 50 .strayBody .pageSection .straySection ∧
      Element.IsTreatedAs 50 .strayBody .row .strayRow ∧
      Element.IsTreatedAs 50 .strayBody .column .strayColumn := by
  have hsection : Element.IsTreatedAs 50 .strayBody .pageSection .straySection :=
    .top (Element.mem_contentChildren_beside _ _ (by decide)) (by decide)
  have hrow : Element.IsTreatedAs 50 .strayBody .row .strayRow := by
    have hrole : Element.strayRow.sectionRole = .row := by decide
    exact hrole ▸ .inSection hsection (Element.mem_contentChildren_beside _ _ (by decide))
  have hcolumn : Element.IsTreatedAs 50 .strayBody .column .strayColumn := by
    have hrole : Element.strayColumn.rowRole = .column := by decide
    exact hrole ▸ .inRow hrow (Element.mem_contentChildren_beside _ _ (by decide))
  exact ⟨hsection, hrow, hcolumn⟩

/-- **Texts beside elements may be lost**: a text directly in a body, a section, a row or a column
stands in no text attribute of the page if an element stands beside it. -/
theorem not_holds_strayText :
    Document.IsUnmarked ⟨Element.strayBody.toNode, 0⟩ ∧
      Element.IsTreatedAs 50 .strayBody .pageSection .straySection ∧
      Element.IsTreatedAs 50 .strayBody .row .strayRow ∧
      Element.IsTreatedAs 50 .strayBody .column .strayColumn ∧
      (∀ e ∈ [Element.strayBody, .straySection, .strayRow, .strayColumn],
        .text "stray" ∈ e.children) ∧ Text.isBlankText "stray" = false ∧
      Document.body? ⟨Element.strayBody.toNode, 0⟩ = some .strayBody ∧
      ∃ p, (ofDocument {} .generic ⟨Element.strayBody.toNode, 0⟩).outcome "0123456789abc" =
          .page p ∧
        ∀ m ∈ PageModule.preorderAll p.content, ¬Attributes.Holds "stray" m.attrs := by
  have hbody : Document.body? ⟨Element.strayBody.toNode, 0⟩ = some .strayBody :=
    List.find?_cons_of_pos (by decide +kernel)
  obtain ⟨hsection, hrow, hcolumn⟩ := isTreatedAs_stray
  have hchildren : ∀ e ∈ [Element.strayBody, .straySection, .strayRow, .strayColumn],
      .text "stray" ∈ e.children := by
    simp only [List.forall_mem_cons]
    exact ⟨List.mem_cons_self, List.mem_cons_self, List.mem_cons_self, List.mem_cons_self,
      List.forall_mem_nil _⟩
  refine ⟨by decide +kernel, hsection, hrow, hcolumn, hchildren, by decide +kernel, hbody, _,
    outcome_of_body? {} .generic hbody "0123456789abc", fun m hm => ?_⟩
  obtain ⟨rowNotes, textNotes, hsources⟩ := exists_sourcesOf_strayBody
  -- The source of a module gives its attributes.
  obtain ⟨q, hq, hmodule⟩ := Lists.exists_mem_of_forall₂
    (forall₂_isModuleOf {} .generic "0123456789abc" .strayBody).flip hm
  rw [hmodule.attrs_eq, hmodule.length_eq]
  rw [hsources] at hq
  simp only [List.mem_cons, List.not_mem_nil, or_false] at hq
  rcases hq with rfl | rfl | rfl | rfl
  · change ¬Attributes.Holds "stray" ((Origin.shapedSection .straySection).attributes 16 1)
    decide +kernel
  · change ¬Attributes.Holds "stray" ((Origin.shapedRow .strayRow).attributes 16 1)
    decide +kernel
  · change ¬Attributes.Holds "stray" ((Origin.shapedColumn .strayColumn).attributes 16 1)
    decide +kernel
  · change ¬Attributes.Holds "stray" ((Origin.typed (.paragraph "kept") .text).attributes 16 0)
    decide +kernel

end Conversion

end PageModules
