import PageModules.Proofs.Component.Recognition
import PageModules.Proofs.Markup.Descent
import PageModules.Proofs.Walk.Drafts

/-!
# The grammar of pages

A page fits the grammar (`Page.FitsGrammar`) if it consists of sections, sections of rows and rows
of one to twelve columns, if modules with children of a type of their own have no others, and if
nothing else but a column has modules inside.

A page that an unmarked document gives by the shape of its elements fits the grammar
(`Conversion.fitsGrammar_of_outcome_eq`).  The rule is first proved of plans
(`Plan.IsBuilt.admits`), one way to build a plan after the other; the modules of the plans inside
have the types of these plans.
-/

namespace PageModules

/-- What stands directly inside of the module is what its type asks for. -/
structure PageModule.FitsGrammar (m : PageModule) : Prop where
  /-- A section has rows, at least one. -/
  rows : m.type = .pageSection → m.children ≠ [] ∧ ∀ c ∈ m.children, c.type = .row
  /-- A row has columns, from one to twelve. -/
  columns : m.type = .row →
    1 ≤ m.children.length ∧ m.children.length ≤ 12 ∧ ∀ c ∈ m.children, c.type = .column
  /-- Where the catalog has a type for the children, they have it, and nothing is inside of them. -/
  items : ∀ type, m.type.child? = some type → ∀ c ∈ m.children, c.type = type ∧ c.children = []
  /-- Nothing is inside of any other module, unless it is a column. -/
  leaf : m.type ≠ .pageSection → m.type ≠ .row → m.type ≠ .column → m.type.child? = none →
    m.children = []

/-- The page consists of sections, and all of its modules fit the grammar. -/
structure Page.FitsGrammar (p : Page) : Prop where
  /-- The trees of the page are sections. -/
  sections : ∀ m ∈ p.content, m.type = .pageSection
  /-- The modules fit the grammar at every depth. -/
  fits : ∀ m ∈ PageModule.preorderAll p.content, m.FitsGrammar

namespace Plan

/-! ### Plans -/

/-- The plans that may stand inside of one of the given type. -/
def Admits (type : ModuleType) (inner : List Plan) : Prop :=
  match type with
  | .pageSection => inner ≠ [] ∧ ∀ c ∈ inner, c.origin.type? = some .row
  | .row => 1 ≤ inner.length ∧ inner.length ≤ 12 ∧ ∀ c ∈ inner, c.origin.type? = some .column
  | .column => True
  | type =>
    match type.child? with
    | some child => ∀ c ∈ inner, c.origin.type? = some child ∧ c.inner = []
    | none => inner = []

theorem admits_iff_of_child? {type child : ModuleType} (h : type.child? = some child)
    {inner : List Plan} :
    Admits type inner ↔ ∀ c ∈ inner, c.origin.type? = some child ∧ c.inner = [] := by
  obtain ⟨hsection, hrow, hcolumn⟩ :=
    ModuleType.isFrame_eq_false_iff.mp (ModuleType.isFrame_of_child? h).2
  unfold Admits
  split
  · exact absurd rfl hsection
  · exact absurd rfl hrow
  · exact absurd rfl hcolumn
  · rw [h]

theorem admits_iff_of_leaf {type : ModuleType} (hframe : type.isFrame = false)
    (hchild : type.child? = none) {inner : List Plan} : Admits type inner ↔ inner = [] := by
  obtain ⟨hsection, hrow, hcolumn⟩ := ModuleType.isFrame_eq_false_iff.mp hframe
  unfold Admits
  split
  · exact absurd rfl hsection
  · exact absurd rfl hrow
  · exact absurd rfl hcolumn
  · rw [hchild]

/-- Nothing may stand inside of a plan that is no part of the frame. -/
theorem admits_nil {type : ModuleType} (hframe : type.isFrame = false) : Admits type [] := by
  cases hchild : type.child? with
  | some child =>
    rw [admits_iff_of_child? hchild]
    simp
  | none => rw [admits_iff_of_leaf hframe hchild]

section Unmarked

variable {threshold : ℕ} {scope : Element → Prop}

theorem admits_rows {es : List Element} (h : ∀ e ∈ es, e.markedType? = none) :
    Admits .pageSection (rows threshold es) :=
  ⟨rows_ne_nil threshold es, fun _ hc => type?_of_mem_rows threshold h hc⟩

theorem admits_columns {e : Element} (h : ∀ c ∈ e.contentChildren, c.markedType? = none) :
    Admits .row (columns threshold e) := by
  have hmax : Layout.maxColumns = 12 := rfl
  have hlength := length_columns threshold e
  rw [Element.rowWidth] at hlength
  exact ⟨by omega, by omega, fun _ hc => type?_of_mem_columns threshold h hc⟩

/-- The plans inside of an element of a known type are what the type asks for. -/
theorem admits_typedChildren {e : Element} (h : ∀ c ∈ e.contentChildren, c.markedType? = none)
    (type : ModuleType) : Admits type (typedChildren threshold e type) := by
  cases hchild : type.child? with
  | some child =>
    rw [admits_iff_of_child? hchild, typedChildren_of_child threshold hchild, linkedChildren,
      List.forall_mem_map]
    exact fun c _ => ⟨rfl, rfl⟩
  | none =>
    cases hframe : type.isFrame with
    | false => rw [admits_iff_of_leaf hframe hchild, typedChildren_of_leaf threshold hchild hframe]
    | true =>
      cases type with
      | pageSection =>
        rw [typedChildren_pageSection]
        exact admits_rows h
      | row =>
        rw [typedChildren_row]
        exact admits_columns h
      | column => trivial
      | _ => cases hframe

theorem recognize?_of_accepted? {e : Element} {r : Recognition}
    (h : accepted? threshold e = some r) : e.recognize? = some r := by
  unfold accepted? at h
  split at h
  · cases h
  · exact (Option.filter_eq_some_iff.mp h).1

theorem isFrame_of_accepted? {e : Element} {r : Recognition} (h : accepted? threshold e = some r) :
    r.type.isFrame = false := by
  obtain ⟨-, pattern, hpattern, htype⟩ :=
    Element.exists_pattern_of_recognize? (recognize?_of_accepted? h)
  rw [← htype]
  exact ComponentPattern.not_frame_of_mem_all hpattern

theorem child?_of_accepted? {e : Element} {r : Recognition} (h : accepted? threshold e = some r)
    {i : ComponentItem} (hi : i ∈ r.component.items) : r.type.child? = some i.type := by
  obtain ⟨hcomponent, -⟩ := Element.exists_pattern_of_recognize? (recognize?_of_accepted? h)
  rw [hcomponent] at hi
  exact Component.child?_of_mem_items hi

/-- The items of a component are what its type asks for. -/
theorem admits_ofRecognition {e : Element} {r : Recognition} (h : accepted? threshold e = some r) :
    Admits r.type (ofRecognition e r).inner := by
  rw [ofRecognition, inner_node]
  cases hchild : r.type.child? with
  | some child =>
    rw [admits_iff_of_child? hchild, List.forall_mem_map]
    intro i hi
    rw [child?_of_accepted? h hi] at hchild
    exact ⟨hchild, rfl⟩
  | none =>
    rw [admits_iff_of_leaf (isFrame_of_accepted? h) hchild, List.map_eq_nil_iff,
      List.eq_nil_iff_forall_not_mem]
    intro i hi
    rw [child?_of_accepted? h hi] at hchild
    cases hchild

/-- **The grammar of plans**: without markers, what the walk puts inside of a plan is what the type
of the plan asks for. -/
theorem IsBuilt.admits {p : Plan} (h : IsBuilt threshold scope p) (hscope : IsClosed scope)
    (hmarks : ∀ e, scope e → e.markedType? = none) {type : ModuleType}
    (htype : p.origin.type? = some type) : Admits type p.inner := by
  have hinside {e : Element} (he : scope e) : ∀ c ∈ e.contentChildren, c.markedType? = none :=
    fun c hc => hmarks c (hscope e he c hc)
  cases h with
  | typed he _ =>
    obtain rfl := Option.some.inj htype
    exact admits_typedChildren (hinside he) _
  | item _ hchild _ =>
    obtain rfl := Option.some.inj htype
    exact admits_nil (ModuleType.isFrame_of_child? hchild).1
  | recognized _ hr =>
    obtain rfl := Option.some.inj htype
    exact admits_ofRecognition hr
  | componentItem _ hr hi =>
    obtain rfl := Option.some.inj htype
    exact admits_nil (ModuleType.isFrame_of_child? (child?_of_accepted? hr hi)).1
  | text _ _ =>
    obtain rfl := Option.some.inj htype
    exact admits_nil rfl
  | dropped _ _ => cases htype
  | ownText _ _ =>
    obtain rfl := Option.some.inj htype
    exact admits_nil rfl
  | shapedSection he _ =>
    obtain rfl := Option.some.inj htype
    exact admits_rows (hinside he)
  | looseSection he _ =>
    obtain rfl := Option.some.inj htype
    exact admits_rows (List.forall_mem_singleton.mpr (hmarks _ he))
  | shapedRow he _ =>
    obtain rfl := Option.some.inj htype
    exact admits_columns (hinside he)
  | looseRow _ =>
    obtain rfl := Option.some.inj htype
    rw [Plan.looseRow, inner_node]
    exact ⟨le_rfl, by simp, List.forall_mem_singleton.mpr rfl⟩
  | shapedColumn _ _ =>
    obtain rfl := Option.some.inj htype
    trivial
  | looseColumn _ =>
    obtain rfl := Option.some.inj htype
    trivial

end Unmarked

end Plan

/-! ### Modules -/

namespace PageModule

variable {base : ℤ} {token : String} {n : ℕ} {type : ModuleType} {ps : List Plan}

theorem length_numberAll_draftsAll
    (h : Plan.draftsAll base ps = ps.map (·.moduleOf base type)) :
    (Draft.numberAll token n (Plan.draftsAll base ps)).length = ps.length := by
  rw [Draft.length_numberAll, h, List.length_map]

/-- The modules of plans have the type of the plans, and where nothing is inside of the plans
nothing is inside of the modules. -/
theorem of_mem_numberAll_draftsAll (h : Plan.draftsAll base ps = ps.map (·.moduleOf base type))
    {m : PageModule} (hm : m ∈ Draft.numberAll token n (Plan.draftsAll base ps)) :
    m.type = type ∧ ((∀ p ∈ ps, p.inner = []) → m.children = []) := by
  obtain ⟨d, hd, k, rfl⟩ := Draft.mem_numberAll token hm
  rw [h] at hd
  obtain ⟨p, hp, rfl⟩ := List.mem_map.mp hd
  constructor
  · rw [Draft.type_number]
    rfl
  · intro hleaf
    obtain ⟨k', hk'⟩ := Draft.children_number token k (p.moduleOf base type)
    rw [hk', Plan.moduleOf, Draft.children, hleaf p hp]
    rfl

/-- The module of a plan fits the grammar if the plans inside are what its type asks for. -/
theorem fitsGrammar_number {p : Plan} {d : Draft} (hd : p.ownModule? base = some d)
    (h : Plan.Admits d.type p.inner) : (d.number token n).FitsGrammar := by
  obtain ⟨-, -, -, hinside⟩ := Draft.eq_of_ownModule? hd
  obtain ⟨k, hchildren⟩ := Draft.children_number token n d
  rw [hinside] at hchildren
  refine { rows := ?_, columns := ?_, items := ?_, leaf := ?_ }
  · intro htype
    rw [Draft.type_number] at htype
    rw [htype] at h
    obtain ⟨hne, hrows⟩ := h
    have hdrafts := Plan.draftsAll_eq_map_of_ne base (by decide) hrows
    rw [hchildren, ← List.length_pos_iff, length_numberAll_draftsAll hdrafts]
    exact ⟨List.length_pos_iff.mpr hne, fun c hc => (of_mem_numberAll_draftsAll hdrafts hc).1⟩
  · intro htype
    rw [Draft.type_number] at htype
    rw [htype] at h
    obtain ⟨hpos, hle, hcolumns⟩ := h
    have hdrafts := Plan.draftsAll_eq_map_of_ne base (by decide) hcolumns
    rw [hchildren, length_numberAll_draftsAll hdrafts]
    exact ⟨hpos, hle, fun c hc => (of_mem_numberAll_draftsAll hdrafts hc).1⟩
  · intro type htype
    rw [Draft.type_number] at htype
    rw [Plan.admits_iff_of_child? htype] at h
    have hne : type ≠ .pageSection :=
      (ModuleType.isFrame_eq_false_iff.mp (ModuleType.isFrame_of_child? htype).1).1
    have hdrafts := Plan.draftsAll_eq_map_of_ne base hne fun p hp => (h p hp).1
    rw [hchildren]
    intro c hc
    obtain ⟨hctype, hleaf⟩ := of_mem_numberAll_draftsAll hdrafts hc
    exact ⟨hctype, hleaf fun p hp => (h p hp).2⟩
  · rw [Draft.type_number]
    intro hsection hrow hcolumn htype
    have hframe := ModuleType.isFrame_eq_false_iff.mpr ⟨hsection, hrow, hcolumn⟩
    rw [hchildren, (Plan.admits_iff_of_leaf hframe htype).mp h]
    rfl

end PageModule

/-! ### Pages -/

namespace Conversion

/-- **Pages fit the grammar**: if no element of a document has a marker that names a type, the page
that the shape of its elements gives fits the grammar at every depth. -/
theorem fitsGrammar_of_outcome_eq {options : ConversionOptions} {d : Document} {token : String}
    {p : Page} (hmarks : d.IsUnmarked)
    (h : (ofDocument options .generic d).outcome token = .page p) : p.FitsGrammar := by
  obtain ⟨body, hbody, rfl⟩ := (outcome_ofDocument_eq_page_iff options .generic).mp h
  have hscope : Plan.IsClosed (· ∈ d.elements) :=
    fun _ he _ hc => Document.mem_elements_of_mem_contentChildren he hc
  constructor
  · intro m hm
    exact (PageModule.of_mem_numberAll_draftsAll (Plan.draftsAll_ofBody _ _ body) hm).1
  · intro m hm
    obtain ⟨q, hq, draft, k, hdraft, rfl⟩ := PageModule.exists_plan_of_mem_preorder hm
    have hbuilt := Plan.isBuilt_of_mem_parts hscope (Document.mem_elements_of_body? hbody) hq
    have htype := (Draft.eq_of_ownModule? hdraft).1
    exact PageModule.fitsGrammar_number hdraft (hbuilt.admits hscope hmarks htype)

/-- A page made of a paragraph fits the grammar. -/
theorem fitsGrammar_paragraph :
    ∃ p, (ofDocument {} .generic (.ofBody [.paragraph "one"])).outcome "0123456789abc" = .page p ∧
      p.FitsGrammar := by
  have hpage :=
    outcome_of_body? {} .generic (Document.body?_ofBody [.paragraph "one"]) "0123456789abc"
  exact ⟨_, hpage, fitsGrammar_of_outcome_eq (by decide +kernel) hpage⟩

end Conversion

end PageModules
