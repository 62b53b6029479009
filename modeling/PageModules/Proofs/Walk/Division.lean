import PageModules.Proofs.Layout.Fractions
import PageModules.Proofs.Walk.Contents
import PageModules.Proofs.Walk.Frame
import PageModules.Proofs.Walk.Precedence

/-!
# The division of a row

The division of a row names one width for each of its columns.  It comes from the author, from the
widths of the children or from the number of columns, and it is kept only where it fits the number
of columns (`Element.columnTokens_divisionFor`).  So a row and its division agree, however the row
came about, unless its element overrides the division (`Conversion.forall₂_isDivided`).
-/

namespace PageModules

/-! ### Divisions -/

namespace Element

/-- A division that is put together from words has a column for each of them. -/
theorem columnTokens_intercalate {words : List String} (hne : words ≠ [])
    (h : ∀ w ∈ words, ',' ∉ w.toList ∧ Text.isBlankText w = false) :
    columnTokens (",".intercalate words) = words.length := by
  have hsplit : Text.splitOn ',' (",".intercalate words) = words :=
    Text.splitOn_intercalate hne fun w hw => (h w hw).1
  rw [columnTokens, hsplit, List.countP_eq_length]
  intro w hw
  rw [(h w hw).2]
  rfl

/-- Equal columns are as many as are asked for, up to twelve. -/
theorem columnTokens_equalColumns {n : ℕ} (hpos : 1 ≤ n) (hmax : n ≤ Layout.maxColumns) :
    columnTokens (Layout.equalColumns n) = n := by
  have hword : ∀ n ≤ Layout.maxColumns,
      ',' ∉ ("1_" ++ String.ofList (Nat.toDigits 10 n)).toList ∧
        Text.isBlankText ("1_" ++ String.ofList (Nat.toDigits 10 n)) = false := by decide
  rw [Layout.equalColumns, Nat.min_eq_left hmax]
  split
  case isTrue hone =>
    obtain rfl : n = 1 := Nat.le_antisymm hone hpos
    decide
  case isFalse hmore =>
    rw [columnTokens_intercalate (by simp; omega), List.length_replicate]
    intro w hw
    rw [List.eq_of_mem_replicate hw]
    exact hword n hmax

/-- The division of a row has as many parts as the row has columns. -/
theorem columnTokens_divisionFor (e : Element) (attrs : Attributes) {n : ℕ} (hpos : 1 ≤ n)
    (hmax : n ≤ Layout.maxColumns) : columnTokens (e.divisionFor attrs n) = n := by
  unfold divisionFor
  dsimp only
  split
  · assumption
  · exact columnTokens_equalColumns hpos hmax

/-- No variant of a style sets the division: it ends in none of the suffixes. -/
theorem division_ne_append :
    ∀ variant ∈ styleVariants, ∀ k, "column_structure" ≠ k ++ variant.2 := by
  have hends : ∀ variant ∈ styleVariants,
      ¬ variant.2.toList <:+ "column_structure".toList := by decide
  intro variant hvariant k hkey
  refine hends variant hvariant ⟨k.toList, ?_⟩
  rw [hkey, String.toList_append]

/-- The division that is set stays when the element finishes the attributes. -/
theorem find?_finish_withDivision {e : Element} (h : ¬ e.IsOverridden "column_structure")
    (base : Int) (attrs : Attributes) (n : ℕ) :
    (e.finish base (e.withDivision n attrs)).find? "column_structure" =
      some (.text (e.divisionFor attrs n)) := by
  rw [(e.finishes_finish base _).unsuffixed _ (by decide) h division_ne_append, withDivision,
    KeyMap.find?_insert, if_pos rfl]

end Element

/-! ### Rows -/

namespace PageModule

/-- A row of the origin is divided into as many columns as it has. -/
structure IsDivided (o : Origin) (m : PageModule) : Prop where
  /-- There is a column. -/
  pos : 1 ≤ m.children.length
  /-- There are at most twelve columns. -/
  le_max : m.children.length ≤ Layout.maxColumns
  /-- If the element of the row does not override the division, it has one part for each column. -/
  division : (∀ e, o.element? = some e → ¬ e.IsOverridden "column_structure") →
    ∃ s, m.attrs.find? "column_structure" = some (.text s) ∧
      Element.columnTokens s = m.children.length

/-- A row that the walk builds is divided into as many columns as it has. -/
theorem isDivided_of_framePart {threshold : ℕ} {base : Int} {p : Plan} {m : PageModule}
    (h : p.FramePart threshold .row) (hm : m.IsModuleOf base p) : m.IsDivided p.origin := by
  obtain ⟨hpos, hmax⟩ := hm.length_eq ▸ h.length_draftsAll_inner base
  have hdivided {e : Element} {attrs : Attributes} (he : p.origin.element? = some e)
      (hattrs : m.attrs = e.finish base (e.withDivision m.children.length attrs)) :
      m.IsDivided p.origin := by
    refine ⟨hpos, hmax, fun hover => ⟨_, ?_, e.columnTokens_divisionFor attrs hpos hmax⟩⟩
    rw [hattrs, Element.find?_finish_withDivision (hover e he)]
  cases h with
  | typed => exact hdivided rfl hm.attrs_eq
  | shapedRow => exact hdivided rfl hm.attrs_eq
  | looseRow =>
    have hlength : m.children.length = 1 := hm.length_eq
    refine ⟨hpos, hmax, fun _ => ⟨"1", ?_, ?_⟩⟩
    · rw [hm.attrs_eq]
      rfl
    · rw [hlength]
      decide

end PageModule

namespace Conversion

/-- **Rows and their divisions agree**: whatever the document, the options and the way of reading
are, each row of a page has from one to twelve columns, and its division has as many parts, unless
the element that the row is made of overrides the division. -/
theorem forall₂_isDivided {options : ConversionOptions} {mode : WalkMode} {d : Document}
    {token : String} {p : Page} (h : (ofDocument options mode d).outcome token = .page p) :
    ∃ body, d.body? = some body ∧
      List.Forall₂ (fun q m => m.IsModuleOf options.baseFontSize q ∧
          (m.type = .row → m.IsDivided q.origin))
        (sourcesOf options mode body) (PageModule.preorderAll p.content) := by
  obtain ⟨body, hbody, rfl⟩ := (outcome_ofDocument_eq_page_iff options mode).mp h
  refine ⟨body, hbody, forall₂_sourcesOf options mode hbody token fun q m hq _ hm => ⟨hm, ?_⟩⟩
  intro hrow
  have htype : q.origin.type? = some .row := hrow ▸ hm.type_eq
  obtain hpart | ⟨-, hsection⟩ := hq.framePart htype rfl
  · exact PageModule.isDivided_of_framePart hpart hm
  · cases hsection

/-- What looks like a row stands behind the section around it. -/
theorem exists_sourcesOf_wideRow : ∃ outer notes rest,
    sourcesOf {} .generic (.plain "body" [.wideRow]) =
      outer :: Plan.node notes (.shapedRow .wideRow) (Plan.columns 50 .wideRow) :: rest := by
  have hsection : Element.wideRow.isSectionLike = false := by decide
  have hrow : Element.wideRow.isRowLike = true := by decide
  have hmark : Element.wideRow.markedType? = none := by decide
  have hruns : Run.runs (·.isRowLike) [Element.wideRow] = [.single .wideRow] := by
    rw [Run.runs_cons_of_fits hrow]
    rfl
  rw [sourcesOf, plansOf, Plan.ofBody, Element.contentChildren_plain (by decide),
    List.map_singleton, Plan.ofTopLevel, hsection, if_neg Bool.false_ne_true, Plan.rows_eq,
    if_neg (List.cons_ne_nil _ _), hruns, Plan.noteRows, Plan.noteRows, List.map_singleton,
    Plan.ofRowGroup_single, Plan.ofRow, hmark]
  exact ⟨_, _, _, rfl⟩

/-- A row of thirteen columns has twelve, and so does its division. -/
theorem forall₂_isDivided_wideRow :
    ∃ p, (ofDocument {} .generic (.ofBody [.wideRow])).outcome "0123456789abc" = .page p ∧
      ∃ m ∈ PageModule.preorderAll p.content, m.type = .row ∧ m.children.length = 12 ∧
        ∃ s, m.attrs.find? "column_structure" = some (.text s) ∧ Element.columnTokens s = 12 := by
  have hbody := Document.body?_ofBody [.wideRow]
  have hpage := outcome_of_body? {} .generic hbody "0123456789abc"
  obtain ⟨body, hbody', hall⟩ := forall₂_isDivided hpage
  obtain rfl := Option.some.inj (hbody.symm.trans hbody')
  obtain ⟨outer, notes, rest, hsources⟩ := exists_sourcesOf_wideRow
  rw [hsources] at hall
  obtain ⟨_, _, -, hall, hcontent⟩ := List.forall₂_cons_left_iff.mp hall
  obtain ⟨m, _, ⟨hm, hdivided⟩, -, rfl⟩ := List.forall₂_cons_left_iff.mp hall
  have htype : m.type = .row := (Option.some.inj hm.type_eq).symm
  have hlength : m.children.length = 12 := by
    rw [hm.length_eq, Plan.inner_node,
      Plan.length_draftsAll _ (Plan.hasModule_of_mem_columns 50 .wideRow), Plan.length_columns]
    decide +kernel
  have hover : ¬ Element.wideRow.IsOverridden "column_structure" := by
    rintro ⟨a, ha, hkey⟩
    obtain rfl := List.mem_singleton.mp ha
    revert hkey
    decide
  obtain ⟨s, hs, hcount⟩ := (hdivided htype).division fun e he => Option.some.inj he ▸ hover
  rw [hlength] at hcount
  refine ⟨_, hpage, m, ?_, htype, hlength, s, hs, hcount⟩
  rw [hcontent]
  exact List.mem_cons_of_mem _ List.mem_cons_self

end Conversion

end PageModules
