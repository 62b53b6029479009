import PageModules.Proofs.Walk.Grammar
import PageModules.Proofs.Walk.Sources

/-!
# Sections and rows, marked or not

A marker may put a module of any type in the place of a row or a column, but it never leaves the
place empty (`Plan.hasModule_of_mem_rows`, `Plan.hasModule_of_mem_columns`).  So in either way of
reading there are modules inside of a section (`Plan.FramePart.draftsAll_inner_ne_nil`), and from
one to twelve inside of a row (`Plan.FramePart.length_draftsAll_inner`).
-/

namespace PageModules.Plan

/-! ### Plans that have a module -/

/-- Whether a plan has a module, whatever is inside of it. -/
def hasModule (p : Plan) : Bool := !p.origin.isWrapper && p.origin.type?.isSome

/-- Plans that have a module give one each. -/
theorem length_draftsAll (base : Int) {ps : List Plan} (h : ∀ p ∈ ps, p.hasModule = true) :
    (draftsAll base ps).length = ps.length := by
  induction ps with
  | nil => rfl
  | cons p rest ih =>
    obtain ⟨hp, hrest⟩ := List.forall_mem_cons.mp h
    rw [hasModule, Bool.and_eq_true, Bool.not_eq_true', Option.isSome_iff_exists] at hp
    obtain ⟨hwrapper, type, htype⟩ := hp
    have hown : (p.ownModule? base).toList.length = 1 := by
      rw [ownModule?, htype]
      rfl
    rw [draftsAll, drafts_eq, if_neg (by simp [hwrapper]), List.length_append, hown, ih hrest,
      List.length_cons, Nat.add_comm]

variable (threshold : Nat)

theorem hasModule_ofTyped (notes : List Note) (e : Element) (type : ModuleType) :
    (ofTyped threshold notes e type).hasModule = true := by
  rw [ofTyped]
  rfl

theorem hasModule_ofColumnGroup (g : Run Element) :
    (ofColumnGroup threshold g).hasModule = true := by
  cases g with
  | single e =>
    rw [ofColumnGroup_single]
    cases hmarked : e.markedType? with
    | none =>
      rw [ofColumn_of_none threshold hmarked]
      rfl
    | some type =>
      rw [ofColumn_of_markedType? threshold hmarked]
      exact hasModule_ofTyped threshold [] e type
  | loose es =>
    rw [ofColumnGroup_loose]
    rfl

theorem hasModule_ofRowGroup (notes : List Note) (g : Run Element) :
    (ofRowGroup threshold notes g).hasModule = true := by
  cases g with
  | single e =>
    rw [ofRowGroup_single]
    cases hmarked : e.markedType? with
    | none =>
      rw [ofRow_of_none threshold hmarked]
      rfl
    | some type =>
      rw [ofRow_of_markedType? threshold hmarked]
      exact hasModule_ofTyped threshold notes e type
  | loose es =>
    rw [ofRowGroup_loose]
    rfl

theorem hasModule_of_mem_columns (e : Element) :
    ∀ p ∈ columns threshold e, p.hasModule = true :=
  forall_mem_columns threshold (fun g _ => hasModule_ofColumnGroup threshold g) fun _ _ => rfl

theorem hasModule_of_mem_rows (es : List Element) : ∀ p ∈ rows threshold es, p.hasModule = true :=
  forall_mem_rows threshold (fun notes g _ => hasModule_ofRowGroup threshold notes g) rfl

theorem draftsAll_rows_ne_nil (base : Int) (es : List Element) :
    draftsAll base (rows threshold es) ≠ [] := by
  rw [← List.length_pos_iff, length_draftsAll base (hasModule_of_mem_rows threshold es),
    List.length_pos_iff]
  exact rows_ne_nil threshold es

/-! ### Parts of the frame -/

/-- A plan of a section, a row or a column that the walk builds of elements. -/
inductive FramePart : ModuleType → Plan → Prop where
  /-- An element of the type. -/
  | typed {notes : List Note} {e : Element} {type : ModuleType} :
    FramePart type (node notes (.typed e type) (typedChildren threshold e type))
  /-- An element that looks like a section. -/
  | shapedSection {e : Element} :
    FramePart .pageSection (node [] (.shapedSection e) (rows threshold e.contentChildren))
  /-- A section around an element that is none. -/
  | looseSection {e : Element} :
    FramePart .pageSection (node [] .looseSection (rows threshold [e]))
  /-- An element that looks like a row. -/
  | shapedRow {notes : List Note} {e : Element} :
    FramePart .row (node notes (.shapedRow e) (columns threshold e))
  /-- A row around loose elements. -/
  | looseRow {notes : List Note} {contents : List Plan} : FramePart .row (looseRow notes contents)
  /-- An element that looks like a column. -/
  | shapedColumn {e : Element} :
    FramePart .column (node [] (.shapedColumn e) (columnContent threshold e))
  /-- A column around loose elements. -/
  | looseColumn {notes : List Note} {contents : List Plan} :
    FramePart .column (looseColumn notes contents)

variable {threshold} {scope : Element → Prop}

/-- What the walk builds of a type of the frame; items and components are of no such type. -/
theorem IsBuilt.framePart {p : Plan} {type : ModuleType} (h : IsBuilt threshold scope p)
    (htype : p.origin.type? = some type) (hframe : type.isFrame = true) :
    FramePart threshold type p := by
  cases h with
  | typed _ _ =>
    obtain rfl := Option.some.inj htype
    exact .typed
  | item _ hchild _ =>
    obtain rfl := Option.some.inj htype
    rw [(ModuleType.isFrame_of_child? hchild).1] at hframe
    cases hframe
  | recognized _ hr =>
    obtain rfl := Option.some.inj htype
    rw [isFrame_of_accepted? hr] at hframe
    cases hframe
  | componentItem _ hr hi =>
    obtain rfl := Option.some.inj htype
    rw [(ModuleType.isFrame_of_child? (child?_of_accepted? hr hi)).1] at hframe
    cases hframe
  | text _ _ =>
    obtain rfl := Option.some.inj htype
    cases hframe
  | dropped _ _ => cases htype
  | ownText _ _ =>
    obtain rfl := Option.some.inj htype
    cases hframe
  | shapedSection _ _ =>
    obtain rfl := Option.some.inj htype
    exact .shapedSection
  | looseSection _ _ =>
    obtain rfl := Option.some.inj htype
    exact .looseSection
  | shapedRow _ _ =>
    obtain rfl := Option.some.inj htype
    exact .shapedRow
  | looseRow _ =>
    obtain rfl := Option.some.inj htype
    exact .looseRow
  | shapedColumn _ _ =>
    obtain rfl := Option.some.inj htype
    exact .shapedColumn
  | looseColumn _ =>
    obtain rfl := Option.some.inj htype
    exact .looseColumn

/-- A part of a plan that is of a type of the frame is built by the walk, or it is an element of no
type around others, which becomes a section. -/
theorem IsPlanned.framePart {p : Plan} {type : ModuleType} (h : IsPlanned threshold scope p)
    (htype : p.origin.type? = some type) (hframe : type.isFrame = true) :
    FramePart threshold type p ∨ (p.origin.isWrapper = true ∧ type = .pageSection) := by
  cases h with
  | built h => exact .inl (h.framePart htype hframe)
  | wrapper _ _ => exact .inr ⟨rfl, (Option.some.inj htype).symm⟩

/-! ### What is inside -/

/-- There are modules inside of a section. -/
theorem FramePart.draftsAll_inner_ne_nil {p : Plan} (h : FramePart threshold .pageSection p)
    (base : Int) : draftsAll base p.inner ≠ [] := by
  cases h with
  | typed =>
    rw [inner_node, typedChildren_pageSection]
    exact draftsAll_rows_ne_nil threshold base _
  | shapedSection => exact draftsAll_rows_ne_nil threshold base _
  | looseSection => exact draftsAll_rows_ne_nil threshold base _

/-- There are from one to twelve modules inside of a row. -/
theorem FramePart.length_draftsAll_inner {p : Plan} (h : FramePart threshold .row p) (base : Int) :
    1 ≤ (draftsAll base p.inner).length ∧ (draftsAll base p.inner).length ≤ 12 := by
  have hcolumns (e : Element) : 1 ≤ (draftsAll base (columns threshold e)).length ∧
      (draftsAll base (columns threshold e)).length ≤ 12 := by
    have hmax : Layout.maxColumns = 12 := rfl
    rw [length_draftsAll base (hasModule_of_mem_columns threshold e), length_columns,
      Element.rowWidth]
    omega
  cases h with
  | typed =>
    rw [inner_node, typedChildren_row]
    exact hcolumns _
  | shapedRow => exact hcolumns _
  | looseRow =>
    rw [Plan.looseRow, inner_node, length_draftsAll base (List.forall_mem_singleton.mpr rfl),
      List.length_singleton]
    exact ⟨le_rfl, by decide⟩

end PageModules.Plan
